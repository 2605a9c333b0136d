import Mathlib.Data.List.Forall2
import Stencil.Proofs.Batch.Template

/-!
# The shape of a batch template

Data is taken for a batch template if it has the shape of one: an object whose requests, if there
are any, are objects with an address and known fields only, and whose response, if there is one, is
an object with known fields only. Everything else is refused, with a problem and the source of the
data. The template has one entry for each request, in order.

Two things are looser than the shape. Whatever counts as absent is taken for no requests, not null
alone. And a method that is null is not taken for a missing one: it is shown as any other value.
-/

namespace Stencil

open Fields (find? find?_append find?_cons)
open Outcome (FailsOnly)

namespace BatchTemplate

section Shape

/-- All keys of members are among the known names. -/
def HasOnly (known : List String) (members : List (Key × Value)) : Prop :=
  ∀ member ∈ members, member.1 ∈ known.map Key.text

/-- An object with an address and no other fields than those of a request. -/
def IsRequest (v : Value) : Prop :=
  ∃ members, v = .object members ∧ HasOnly requestFields members ∧
    ∃ url, v.member "url" = .text url ∧ url ≠ ""

/-- An object with no other fields than those of a response. -/
def IsResponse (v : Value) : Prop := ∃ members, v = .object members ∧ HasOnly responseFields members

/-- The shape of a template, in which some values stand for no requests. -/
structure IsTemplate (empty : Value → Prop) (d : Value) : Prop where
  /-- It is an object. -/
  isObject : ∃ members, d = .object members
  /-- There are no requests, or they are listed. -/
  requests : empty (d.member "requests") ∨
    ∃ items, d.member "requests" = .list items ∧ ∀ item ∈ items, IsRequest item
  /-- There is no response, or it has its shape. -/
  response : d.member "response" = .null ∨ IsResponse (d.member "response")

/-- What the data of a request gives as its method. -/
def givenMethod (members : List (Key × Value)) : Value :=
  ((find? members "http_method").orElse fun _ => find? members "method").getD (.text "GET")

/-- The method of a request holds an integer that is too long to be shown. -/
def HasLongMethod (v : Value) : Prop :=
  ∃ members, v = .object members ∧ (givenMethod members).holdsLong = true

/-- A key of an object is no text, but an integer that is too long to be shown. -/
def HasLongField (v : Value) : Prop :=
  ∃ members, v = .object members ∧ ∃ member ∈ members, Value.keyIsLong member.1 = true

/-- The items of a list; of anything else, none. -/
def itemsOf : Value → List Value
  | .list items => items
  | _ => []

/-- A part of a template that is shown while it is read holds an integer that is too long for it: a
method, or a key that is no field of a request or the response. -/
def HasLongPart (d : Value) : Prop :=
  (∃ item ∈ itemsOf (d.member "requests"), HasLongMethod item ∨ HasLongField item) ∨
    HasLongField (d.member "response")

/-- A value that is given, unless it is null. -/
def given : Value → Option Value
  | .null => none
  | v => some v

/-- The template of a request has the address, the method in upper case, the headers and the body
that its data gives. -/
structure IsRequestOf (v : Value) (r : RequestTemplate) : Prop where
  /-- The address. -/
  url : v.member "url" = .text r.url
  /-- The method. -/
  method : ∃ members, v = .object members ∧ r.method = Text.upper (givenMethod members).plain
  /-- The headers. -/
  headers : r.headers = given (v.member "headers")
  /-- The body. -/
  body : r.body = given (v.member "body")

/-- The template of a response has the status, the headers and the body that its data gives. -/
structure IsResponseOf (v : Value) (r : ResponseTemplate) : Prop where
  /-- The status. -/
  status : r.status = given (v.member "status")
  /-- The headers. -/
  headers : r.headers = given (v.member "headers")
  /-- The body. -/
  body : r.body = given (v.member "body")

/-- The template of a batch has an entry for each request that its data lists, in order, and one
for the response that it gives. -/
structure IsTemplateOf (d : Value) (t : BatchTemplate) : Prop where
  /-- The requests. -/
  requests : List.Forall₂ IsRequestOf (itemsOf (d.member "requests")) t.requests
  /-- The response. -/
  response : Option.Rel IsResponseOf (given (d.member "response")) t.response

end Shape

section Reading

variable {α β : Type} {source : Option String} {shape more long longer : Prop}
  {result : α → Prop} {final : β → Prop}

/-- How data is read: data of the shape has a result of a kind, unless a part that is shown is too
long, and any other data is refused. -/
inductive IsRead (source : Option String) (shape long : Prop) (result : α → Prop) :
    Outcome α → Prop where
  /-- There is a result. -/
  | ok {a : α} (shaped : shape) (short : ¬long) (holds : result a) :
    IsRead source shape long result (.ok a)
  /-- The data is refused. -/
  | refused (problem : ConfigProblem) (unshaped : ¬shape) :
    IsRead source shape long result (refuse problem source)
  /-- A part is too long to be shown. -/
  | broken (isLong : long) : IsRead source shape long result (Outcome.defect .value)

namespace IsRead

/-- There is a result exactly for data of the shape with no part that is too long. -/
theorem exists_ok_iff {x : Outcome α} (h : IsRead source shape long result x) :
    (∃ a, x = .ok a) ↔ shape ∧ ¬long := by
  cases h with
  | ok shaped short holds => exact ⟨fun _ => ⟨shaped, short⟩, fun _ => ⟨_, rfl⟩⟩
  | refused problem unshaped =>
    refine ⟨?_, fun both => absurd both.1 unshaped⟩
    rintro ⟨a, ⟨⟩⟩
  | broken isLong =>
    refine ⟨?_, fun both => absurd isLong both.2⟩
    rintro ⟨a, ⟨⟩⟩

/-- A result is of the kind. -/
theorem result_of_ok {a : α} (h : IsRead source shape long result (.ok a)) : result a := by
  cases h with
  | ok shaped short holds => exact holds

/-- A failure is a problem with the source, unless a part is too long. -/
theorem of_error {f : Failure} (h : IsRead source shape long result (.error f)) :
    (∃ problem, f = .error (.config problem source)) ∨ f = .defect .value ∧ long := by
  generalize same : (Except.error f : Outcome α) = x at h
  cases h with
  | ok => cases same
  | refused problem =>
    cases same
    exact .inl ⟨problem, rfl⟩
  | broken isLong =>
    cases same
    exact .inr ⟨rfl, isLong⟩

/-- Data that is read in two steps. -/
theorem bind {x : Outcome α} {next : α → Outcome β} (first : IsRead source shape long result x)
    (second : ∀ a, result a → IsRead source more longer final (next a)) :
    IsRead source (shape ∧ more) (long ∨ longer) final (x >>= next) := by
  cases first with
  | refused problem unshaped => exact .refused problem fun both => unshaped both.1
  | broken isLong => exact .broken (.inl isLong)
  | @ok a shaped short holds =>
    -- the first step has a result, so the second one decides
    have later := second a holds
    rw [Outcome.ok_bind]
    generalize next a = y at later ⊢
    cases later with
    | ok shaped' short' holds' =>
      exact .ok ⟨shaped, shaped'⟩ (not_or.mpr ⟨short, short'⟩) holds'
    | refused problem unshaped => exact .refused problem fun both => unshaped both.2
    | broken isLong => exact .broken (.inr isLong)

/-- A function of the result is read as the result is. -/
theorem map {x : Outcome α} {f : α → β} (h : IsRead source shape long result x)
    (keeps : ∀ a, result a → final (f a)) : IsRead source shape long final (x.map f) := by
  cases h with
  | ok shaped short holds => exact .ok shaped short (keeps _ holds)
  | refused problem unshaped => exact .refused problem unshaped
  | broken isLong => exact .broken isLong

/-- The shape and what is too long in other words. -/
theorem congr {x : Outcome α} (h : IsRead source shape long result x) (shapes : shape ↔ more)
    (longs : long ↔ longer) : IsRead source more longer result x := by
  rwa [← propext shapes, ← propext longs]

end IsRead

end Reading

section Readers

variable (source : Option String)

/-- A key is the same as a text exactly if it is that text. -/
theorem same_text_right (key : Key) (name : String) :
    key.same (.text name) = decide (key = .text name) := by
  cases key <;> rfl

/-- There are no unknown keys exactly if all keys are among the known names. -/
theorem unknownKeys_eq_nil_iff {known : List String} {members : List (Key × Value)} :
    unknownKeys known members = [] ↔ HasOnly known members := by
  rw [unknownKeys, List.map_eq_nil_iff, List.filter_eq_nil_iff, HasOnly]
  refine forall₂_congr fun member _ => ?_
  simp only [Bool.not_eq_true', Bool.not_eq_false, List.any_eq_true, same_text_right,
    decide_eq_true_eq, List.mem_map]
  exact exists_congr fun name => and_congr_right fun _ => eq_comm

/-- No known name is too long to be shown. -/
theorem not_hasLongField {known : List String} {members : List (Key × Value)}
    (only : HasOnly known members) : ¬HasLongField (.object members) := by
  rintro ⟨_, ⟨⟩, member, among, long⟩
  obtain ⟨name, -, same⟩ := List.mem_map.mp (only member among)
  rw [← same] at long
  cases long

/-- Unknown keys are refused, unless one of them is too long to be shown. -/
theorem isRead_refuseKeys {α : Type} {shape long : Prop} {result : α → Prop}
    (problem : List String → ConfigProblem) (known : List String) {members : List (Key × Value)}
    (unshaped : ¬shape) (broken : HasLongField (.object members) → long) :
    IsRead source shape long result
      (refuseKeys problem source (unknownKeys known members) : Outcome α) := by
  have fails : FailsOnly (fun failure => failure = .defect .value ∧ long)
      ((unknownKeys known members).mapM Key.plainText) := by
    refine .mapM_of_mem fun key among => ?_
    obtain ⟨v, inside⟩ := exists_mem_of_mem_unknownKeys among
    unfold Key.plainText
    split
    · next isLong => exact .error ⟨rfl, broken ⟨members, rfl, (key, v), inside, isLong⟩⟩
    · exact .ok _
  unfold refuseKeys
  cases shown : (unknownKeys known members).mapM Key.plainText with
  | ok names => exact .refused (problem names) unshaped
  | error failure =>
    obtain ⟨rfl, isLong⟩ := fails failure shown
    exact .broken isLong

/-- An optional member is given unless it is null. -/
theorem optional_eq (members : List (Key × Value)) (name : String) :
    optional members name = given ((Value.object members).member name) := by
  rw [optional, Value.member]
  cases find? members name with
  | none => rfl
  | some v => cases v <;> rfl

/-- A member is a text exactly if that text is found. -/
theorem member_eq_text_iff {members : List (Key × Value)} {name s : String} :
    (Value.object members).member name = .text s ↔ find? members name = some (.text s) := by
  rw [Value.member]
  cases find? members name with
  | none =>
    constructor <;> intro same <;> cases same
  | some v => exact ⟨congrArg some, Option.some.inj⟩

/-- An object is a request if it has no unknown field, and an address that is not empty. -/
theorem isRequest_object_iff {members : List (Key × Value)} :
    IsRequest (.object members) ↔ unknownKeys requestFields members = [] ∧
      ∃ url, find? members "url" = some (.text url) ∧ url ≠ "" := by
  simp only [unknownKeys_eq_nil_iff, ← member_eq_text_iff]
  constructor
  · rintro ⟨others, ⟨⟩, shaped⟩
    exact shaped
  · intro shaped
    exact ⟨members, rfl, shaped⟩

/-- The template of a request is read from data of its shape. -/
theorem isRead_readRequest (number : Nat) (v : Value) :
    IsRead source (IsRequest v) (HasLongMethod v ∨ HasLongField v) (IsRequestOf v)
      (readRequest source number v) := by
  cases v with
  | object members =>
    unfold readRequest
    dsimp only
    split
    · next url found =>
      split
      · next empty =>
        refine .refused _ fun shaped => ?_
        obtain ⟨-, other, same, nonempty⟩ := isRequest_object_iff.mp shaped
        obtain rfl : url = other := Value.text.inj (Option.some.inj (found.symm.trans same))
        exact nonempty (String.isEmpty_iff.mp empty)
      · next nonempty =>
        split
        · next known =>
          have some : url ≠ "" := fun empty => nonempty (String.isEmpty_iff.mpr empty)
          have shaped : IsRequest (.object members) :=
            isRequest_object_iff.mpr ⟨known, url, found, some⟩
          have method : methodOf members =
              (Headers.plainText (givenMethod members)).map Text.upper := rfl
          rw [method, Headers.plainText]
          cases long : (givenMethod members).holdsLong with
          | true => exact .broken (.inl ⟨members, rfl, long⟩)
          | false =>
            refine .ok shaped ?_ ⟨member_eq_text_iff.mpr found, ⟨members, rfl, rfl⟩,
              optional_eq members "headers", optional_eq members "body"⟩
            rintro (⟨others, ⟨⟩, isLong⟩ | field)
            · rw [long] at isLong
              cases isLong
            · exact not_hasLongField (unknownKeys_eq_nil_iff.mp known) field
        · next unknown =>
          exact isRead_refuseKeys source _ _
            (fun shaped => unknown (isRequest_object_iff.mp shaped).1) .inr
    · next other =>
      refine .refused _ fun shaped => ?_
      obtain ⟨-, url, found, -⟩ := isRequest_object_iff.mp shaped
      exact other url found
  | _ =>
    refine .refused _ ?_
    rintro ⟨members, ⟨⟩, -⟩

/-- The templates of requests are read from items of their shape, in order. -/
theorem isRead_readRequests (number : Nat) (items : List Value) :
    IsRead source (∀ item ∈ items, IsRequest item)
      (∃ item ∈ items, HasLongMethod item ∨ HasLongField item)
      (List.Forall₂ IsRequestOf items) (readRequests source number items) := by
  induction items generalizing number with
  | nil => exact .ok nofun (by rintro ⟨item, ⟨⟩, -⟩) .nil
  | cons item rest ih =>
    rw [readRequests]
    have step := (isRead_readRequest source number item).bind fun request told =>
      (ih (number + 1)).map fun requests each => List.Forall₂.cons told each
    exact step.congr List.forall_mem_cons.symm (by simp)

/-- The template of a response is read from data of its shape. -/
theorem isRead_readResponse (v : Value) :
    IsRead source (IsResponse v) (HasLongField v) (IsResponseOf v) (readResponse source v) := by
  cases v with
  | object members =>
    unfold readResponse
    dsimp only
    split
    · next known =>
      have only := unknownKeys_eq_nil_iff.mp known
      exact .ok ⟨members, rfl, only⟩ (not_hasLongField only)
        ⟨optional_eq members "status", optional_eq members "headers", optional_eq members "body"⟩
    · next unknown =>
      refine isRead_refuseKeys source _ _ ?_ id
      rintro ⟨others, ⟨⟩, only⟩
      exact unknown (unknownKeys_eq_nil_iff.mpr only)
  | _ =>
    refine .refused _ ?_
    rintro ⟨members, ⟨⟩, -⟩

/-- What counts as absent has no items. -/
theorem itemsOf_eq_nil {v : Value} (absent : v.isAbsent = true) : itemsOf v = [] := by
  cases v with
  | list items => exact List.isEmpty_iff.mp absent
  | _ => rfl

/-- The templates of requests are read from a list of them, or from what counts as absent. -/
theorem isRead_readListed (listed : Value) :
    IsRead source
      (listed.isAbsent = true ∨ ∃ items, listed = .list items ∧ ∀ item ∈ items, IsRequest item)
      (∃ item ∈ itemsOf listed, HasLongMethod item ∨ HasLongField item)
      (List.Forall₂ IsRequestOf (itemsOf listed)) (readListed source listed) := by
  cases listed with
  | list items =>
    refine (isRead_readRequests source 1 items).congr ?_ Iff.rfl
    constructor
    · intro each
      exact .inr ⟨items, rfl, each⟩
    · rintro (empty | ⟨others, ⟨⟩, each⟩)
      · rw [Value.isAbsent, List.isEmpty_iff] at empty
        rw [empty]
        exact nofun
      · exact each
  | _ =>
    unfold readListed
    dsimp only
    split
    · next absent => exact .ok (.inl absent) (by rintro ⟨item, ⟨⟩, -⟩) .nil
    · next present =>
      refine .refused _ ?_
      rintro (absent | ⟨items, ⟨⟩, -⟩)
      exact present absent

/-- The template of a response is read from what is given for it. -/
theorem isRead_readGiven (v : Value) :
    IsRead source (v = .null ∨ IsResponse v) (HasLongField v) (Option.Rel IsResponseOf (given v))
      ((given v).elim (.ok none) fun v => (readResponse source v).map some) := by
  have present (some : given v = some v) (other : v ≠ .null) :
      IsRead source (v = .null ∨ IsResponse v) (HasLongField v)
        (Option.Rel IsResponseOf (given v))
        ((given v).elim (.ok none) fun v => (readResponse source v).map Option.some) := by
    rw [some]
    exact ((isRead_readResponse source v).map fun r told => Option.Rel.some told).congr
      (or_iff_right other).symm Iff.rfl
  cases v with
  | null => exact .ok (.inl rfl) (by rintro ⟨members, ⟨⟩, -⟩) .none
  | _ => exact present rfl nofun

/-- No request of a template has a key that is too long to be shown. -/
theorem IsTemplate.not_hasLongField_of_mem {d : Value}
    (shaped : IsTemplate (fun v => v.isAbsent = true) d) {item : Value}
    (among : item ∈ itemsOf (d.member "requests")) : ¬HasLongField item := by
  rcases shaped.requests with empty | ⟨items, listed, each⟩
  · rw [itemsOf_eq_nil empty] at among
    cases among
  · rw [listed] at among
    obtain ⟨members, rfl, only, -⟩ := each item among
    exact BatchTemplate.not_hasLongField only

/-- The response of a template has no key that is too long to be shown. -/
theorem IsTemplate.not_hasLongField {empty : Value → Prop} {d : Value}
    (shaped : IsTemplate empty d) : ¬HasLongField (d.member "response") := by
  rcases shaped.response with null | ⟨members, object, only⟩
  · rw [null]
    rintro ⟨members, ⟨⟩, -⟩
  · rw [object]
    exact BatchTemplate.not_hasLongField only

/-- The template of a batch is read from data of its shape, in which whatever counts as absent
stands for no requests. -/
theorem isRead_ofValue (d : Value) :
    IsRead source (IsTemplate (fun v => v.isAbsent = true) d)
      (HasLongPart d) (IsTemplateOf d) (ofValue source d) := by
  cases d with
  | object members =>
    rw [ofValue_object, optional_eq]
    have listed := isRead_readListed source ((Value.object members).member "requests")
    have answer := isRead_readGiven source ((Value.object members).member "response")
    have both (requests : List RequestTemplate)
        (each : List.Forall₂ IsRequestOf (itemsOf ((Value.object members).member "requests"))
          requests) (response : Option ResponseTemplate)
        (told : Option.Rel IsResponseOf (given ((Value.object members).member "response"))
          response) : IsTemplateOf (.object members) { requests, response } := ⟨each, told⟩
    have step := listed.bind fun requests each => answer.map (both requests each)
    refine step.congr ?_ Iff.rfl
    exact ⟨fun both => ⟨⟨members, rfl⟩, both.1, both.2⟩,
      fun shaped => ⟨shaped.requests, shaped.response⟩⟩
  | _ =>
    refine .refused _ ?_
    rintro ⟨⟨members, ⟨⟩⟩, -, -⟩

end Readers

section LeavingOut

variable {source : Option String}

/-- Members of which one that is null is left out, under one of the names. -/
inductive LeavesOut (names : List String) :
    List (Key × Value) → List (Key × Value) → Prop where
  /-- It stands between the others, none of which has its name. -/
  | between {before after : List (Key × Value)} {name : String} (listed : name ∈ names)
    (absent : find? (before ++ after) name = none) :
    LeavesOut names (before ++ (.text name, .null) :: after) (before ++ after)

/-- A template of which an optional part that is null is left out: its requests or its response, the
headers or the body of a request, or a part of the response. -/
inductive OmitsNull : Value → Value → Prop where
  /-- A part of the template. -/
  | whole {members others : List (Key × Value)}
    (omits : LeavesOut ["requests", "response"] members others) :
    OmitsNull (.object members) (.object others)
  /-- A part of a request. -/
  | request {before after members others : List (Key × Value)} {earlier later : List Value}
    (omits : LeavesOut ["headers", "body"] members others) :
    OmitsNull
      (.object (before ++
        (.text "requests", .list (earlier ++ .object members :: later)) :: after))
      (.object (before ++
        (.text "requests", .list (earlier ++ .object others :: later)) :: after))
  /-- A part of the response. -/
  | response {before after members others : List (Key × Value)}
    (omits : LeavesOut responseFields members others) :
    OmitsNull (.object (before ++ (.text "response", .object members) :: after))
      (.object (before ++ (.text "response", .object others) :: after))

section Members

variable {names : List String} {members others : List (Key × Value)}

/-- Without the member that is left out each name has the same value. -/
theorem LeavesOut.member_eq (omits : LeavesOut names members others) (name : String) :
    (Value.object others).member name = (Value.object members).member name := by
  cases omits with
  | @between before after left listed absent =>
    rw [Value.member, Value.member]
    by_cases same : left = name
    · subst same
      have earlier : find? before left = none := by
        rw [find?_append, Option.or_eq_none_iff] at absent
        exact absent.1
      rw [absent, find?_append, earlier, find?_cons, if_pos rfl]
      rfl
    · rw [find?_append, find?_append, find?_cons, if_neg same]

/-- Members under other names are found as before. -/
theorem LeavesOut.find?_eq (omits : LeavesOut names members others) {name : String}
    (other : name ∉ names) : find? others name = find? members name := by
  cases omits with
  | @between before after left listed absent =>
    have differs : ¬left = name := fun same => other (same ▸ listed)
    rw [find?_append, find?_append, find?_cons, if_neg differs]

/-- A known field that is left out leaves the unknown ones. -/
theorem LeavesOut.unknownKeys_eq (omits : LeavesOut names members others) {known : List String}
    (all : ∀ name ∈ names, name ∈ known) :
    unknownKeys known others = unknownKeys known members := by
  cases omits with
  | @between before after left listed absent =>
    have known' : (known.any fun name => (Key.text left).same (.text name)) = true := by
      rw [List.any_eq_true]
      exact ⟨left, all left listed, (Key.same_text left left).trans (decide_eq_true rfl)⟩
    rw [unknownKeys, unknownKeys, List.filter_append, List.filter_append, List.filter_cons]
    dsimp only
    rw [known']
    rfl

/-- A request without headers or body is the same as one where they are null. -/
theorem LeavesOut.readRequest_eq (omits : LeavesOut ["headers", "body"] members others)
    (number : Nat) :
    readRequest source number (.object others) = readRequest source number (.object members) := by
  have found {name : String} (other : name ∉ ["headers", "body"]) :
      find? others name = find? members name := omits.find?_eq other
  have unknown : unknownKeys requestFields others = unknownKeys requestFields members :=
    omits.unknownKeys_eq (by decide)
  have method : methodOf others = methodOf members := by
    rw [methodOf, methodOf, found (by decide), found (by decide)]
  rw [readRequest, readRequest, found (by decide), unknown, method, optional_eq, optional_eq,
    optional_eq, optional_eq, omits.member_eq, omits.member_eq]

/-- A response without a part is the same as one where it is null. -/
theorem LeavesOut.readResponse_eq (omits : LeavesOut responseFields members others) :
    readResponse source (.object others) = readResponse source (.object members) := by
  have unknown : unknownKeys responseFields others = unknownKeys responseFields members :=
    omits.unknownKeys_eq fun _ => id
  rw [readResponse, readResponse, unknown]
  simp only [optional_eq, omits.member_eq]

/-- Items that are read alike can stand for each other. -/
theorem readRequests_congr {one other : Value} (later : List Value)
    (same : ∀ number, readRequest source number one = readRequest source number other)
    (earlier : List Value) (number : Nat) :
    readRequests source number (earlier ++ one :: later) =
      readRequests source number (earlier ++ other :: later) := by
  induction earlier generalizing number with
  | nil => rw [List.nil_append, List.nil_append, readRequests, readRequests, same]
  | cons item rest ih =>
    rw [List.cons_append, List.cons_append, readRequests, readRequests, ih]

/-- A member in whose place another one stands gives the same as that one, if it gives the same
where it is found. -/
theorem member_congr {γ : Type} {f : Value → γ} {one other : Value} {left name : String}
    (same : left = name → f one = f other) (before after : List (Key × Value)) :
    f ((Value.object (before ++ (.text left, one) :: after)).member name) =
      f ((Value.object (before ++ (.text left, other) :: after)).member name) := by
  rw [Value.member, Value.member, find?_append, find?_append, find?_cons, find?_cons]
  cases find? before name with
  | some v => rfl
  | none =>
    by_cases found : left = name
    · rw [if_pos found, if_pos found]
      exact same found
    · rw [if_neg found, if_neg found]

end Members

/-- What is read of data is what is read of its requests and its response. -/
theorem ofValue_congr {members others : List (Key × Value)}
    (requests : readListed source ((Value.object others).member "requests") =
      readListed source ((Value.object members).member "requests"))
    (response : ((given ((Value.object others).member "response")).elim (.ok none) fun v =>
        (readResponse source v).map some) =
      (given ((Value.object members).member "response")).elim (.ok none) fun v =>
        (readResponse source v).map some) :
    ofValue source (.object others) = ofValue source (.object members) := by
  rw [ofValue_object, ofValue_object, optional_eq, optional_eq, response]
  exact congrArg (· >>= _) requests

/-- Where an optional part that is null is left out, the same is read. -/
theorem ofValue_eq_of_omitsNull {d spared : Value} (omits : OmitsNull d spared) :
    ofValue source spared = ofValue source d := by
  cases omits with
  | whole omits =>
    refine ofValue_congr ?_ ?_
    · rw [omits.member_eq]
    · rw [omits.member_eq]
  | @request before after members others earlier later omits =>
    refine ofValue_congr (member_congr (fun _ => ?_) before after)
      (member_congr (f := fun v => (given v).elim (.ok none) fun v =>
        (readResponse source v).map some) (fun equal => ?_) before after)
    · exact readRequests_congr later (fun number => omits.readRequest_eq number) earlier 1
    · exact absurd equal (by decide)
  | @response before after members others omits =>
    refine ofValue_congr (member_congr (fun equal => ?_) before after)
      (member_congr (f := fun v => (given v).elim (.ok none) fun v =>
        (readResponse source v).map some) (fun _ => ?_) before after)
    · exact absurd equal (by decide)
    · exact congrArg (Except.map some) omits.readResponse_eq

end LeavingOut

/-- Data is taken for a template exactly if it has the shape of one, in which whatever counts as
absent stands for no requests, and no method holds an integer that is too long to be shown. All
other data is refused with a problem and its source, except that such an integer, in a method or as
an unknown key, breaks reading down. The template has what the data tells, and leaving out an
optional part other than a method that is null changes nothing. -/
theorem ofValue_outcomes (source : Option String) (d : Value) :
    ((∃ t, ofValue source d = .ok t) ↔ IsTemplate (fun v => v.isAbsent = true) d ∧
      ¬∃ item ∈ itemsOf (d.member "requests"), HasLongMethod item) ∧
    (∀ f, ofValue source d = .error f → (∃ problem, f = .error (.config problem source)) ∨
      f = .defect .value ∧ HasLongPart d) ∧
    (∀ t, ofValue source d = .ok t → IsTemplateOf d t) ∧
    ∀ spared, OmitsNull d spared → ofValue source spared = ofValue source d := by
  have read := isRead_ofValue source d
  refine ⟨read.exists_ok_iff.trans ?_, fun f failed => ?_, fun t told => ?_,
    fun spared omits => ofValue_eq_of_omitsNull omits⟩
  · refine and_congr_right fun shaped => not_congr ⟨fun long => ?_, fun ⟨item, among, method⟩ =>
      .inl ⟨item, among, .inl method⟩⟩
    rcases long with ⟨item, among, method | field⟩ | field
    · exact ⟨item, among, method⟩
    · exact absurd field (shaped.not_hasLongField_of_mem among)
    · exact absurd field shaped.not_hasLongField
  · rw [failed] at read
    exact read.of_error
  · rw [told] at read
    exact read.result_of_ok

/-- A template with two optional parts that are null, one of which is left out. -/
theorem ofValue_outcomes_spared :
    let response : Key × Value := (.text "response", .object [(.text "status", .null)])
    let d : Value := .object [(.text "requests", .list [.object [(.text "url", .text "/a"),
      (.text "headers", .null), (.text "method", .text "put")]]), response]
    let spared : Value := .object [(.text "requests", .list [.object [(.text "url", .text "/a"),
      (.text "method", .text "put")]]), response]
    ∃ t, ofValue none d = .ok t ∧ IsTemplateOf d t ∧ ofValue none spared = .ok t := by
  intro response d spared
  obtain ⟨accepted, -, told, same⟩ := ofValue_outcomes none d
  have shaped : IsTemplate (fun v => v.isAbsent = true) d := by
    refine ⟨⟨_, rfl⟩, .inr ⟨_, rfl, ?_⟩, .inr ⟨_, rfl, ?_⟩⟩
    · intro item among
      rw [List.mem_singleton.mp among]
      exact ⟨_, rfl, by simp [HasOnly, requestFields], "/a", rfl, by decide⟩
    · simp [HasOnly, responseFields]
  have short : ¬∃ item ∈ itemsOf (d.member "requests"), HasLongMethod item := by
    rintro ⟨item, among, members, rfl, long⟩
    cases List.mem_singleton.mp among
    cases long
  obtain ⟨t, read⟩ := accepted.mpr ⟨shaped, short⟩
  have headers : LeavesOut ["headers", "body"]
      ([(.text "url", .text "/a")] ++ (.text "headers", .null) :: [(.text "method", .text "put")])
      ([(.text "url", .text "/a")] ++ [(.text "method", .text "put")]) :=
    .between (by decide) rfl
  have omits : OmitsNull d spared := @OmitsNull.request [] [response] _ _ [] [] headers
  exact ⟨t, read, told t read, (same spared omits).trans read⟩

/-- An empty text is taken for no requests, and a method that is null for the method of its word. -/
theorem ofValue_lenient :
    let lenient : Value := .object [(.text "requests", .text "")]
    let missing : Value := .object [(.text "requests", .list [.object [(.text "url", .text "x")]])]
    let nullMethod : Value := .object [(.text "requests", .list [.object [(.text "url", .text "x"),
      (.text "http_method", .null)]])]
    ofValue none lenient = .ok {} ∧ ¬IsTemplate (fun v => v = .null) lenient ∧
      ofValue none missing = .ok { requests := [{ url := "x", method := "GET" }] } ∧
      ofValue none nullMethod = .ok { requests := [{ url := "x", method := "NONE" }] } := by
  have missing : ofValue none (.object [(.text "requests", .list [.object [(.text "url",
      .text "x")]])]) = .ok { requests := [{ url := "x", method := "GET" }] } := by rfl
  have nullMethod : ofValue none (.object [(.text "requests", .list [.object [(.text "url",
      .text "x"), (.text "http_method", .null)]])]) =
        .ok { requests := [{ url := "x", method := "NONE" }] } := by rfl
  intro lenient
  refine ⟨rfl, fun shaped => ?_, missing, nullMethod⟩
  rcases shaped.requests with empty | ⟨items, listed, -⟩
  · cases empty
  · cases listed

end BatchTemplate

end Stencil
