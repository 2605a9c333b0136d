import Stencil.Proofs.Http.Dispatch
import Stencil.Proofs.Http.Wire
import Stencil.Proofs.Json.Failure

/-!
# Responses that are returned

A response that comes back is returned with its status, its headers and a body: nothing if there is
no content, the value of the content if it is said to be JSON and is JSON, and the text of the
content otherwise. It is not returned if the client cannot take it at all, if its charset cannot be
read, or if its content is said to be JSON and is not even text, or has a number that cannot be
held.
-/

namespace Stencil

namespace Http

/-- Bytes that are JSON text for a value. -/
def SpellsJson (content : List UInt8) (v : Value) : Prop :=
  ∃ chars, Charset.strict? (Charset.readJson content) = some chars ∧
    Json.readChars .exact chars = .ok v

/-- Bytes at which reading JSON breaks down, rather than finding a fault in the text. -/
inductive Baffles (content : List UInt8) : Defect → Prop
  /-- The bytes are no text. -/
  | bytes (undecodable : Charset.strict? (Charset.readJson content) = none) :
    Baffles content .decode
  /-- The text has a number that cannot be held. -/
  | number {chars : List Char} {d : Defect}
    (text : Charset.strict? (Charset.readJson content) = some chars)
    (stops : Json.readChars .exact chars = .error (.defect d))
    (kind : d = .value ∨ d = .invalidOperation) : Baffles content d

/-- Content that is said to be JSON and is. -/
def IsJson (contentType : String) (content : List UInt8) : Prop :=
  Client.mentionsJson contentType = true ∧ ∃ v, SpellsJson content v

/-- Content that is said to be JSON and breaks reading it down. -/
def IsBaffling (contentType : String) (content : List UInt8) : Prop :=
  Client.mentionsJson contentType = true ∧ ∃ d, Baffles content d

/-- The body that content of a type stands for. -/
inductive IsBody (contentType : String) (content : List UInt8) : Value → Prop
  /-- No content. -/
  | nothing (empty : content = []) : IsBody contentType content .null
  /-- JSON. -/
  | json {v : Value} (filled : content ≠ []) (told : Client.mentionsJson contentType = true)
    (spells : SpellsJson content v) : IsBody contentType content v
  /-- Anything else. -/
  | text {chars : List Char} (filled : content ≠ []) (other : ¬IsJson contentType content)
    (reads : Client.readText contentType.toList content = .ok chars) :
    IsBody contentType content (.text (String.ofList chars))

/-- Why content of a type has no body. -/
inductive HasNoBody (contentType : String) (content : List UInt8) : Failure → Prop
  /-- It is said to be JSON and breaks reading it down. -/
  | baffles {d : Defect} (filled : content ≠ []) (told : Client.mentionsJson contentType = true)
    (baffles : Baffles content d) : HasNoBody contentType content (.defect d)
  /-- It is a text that cannot be read in its charset. -/
  | unreadable {e : Failure} (filled : content ≠ []) (other : ¬IsJson contentType content)
    (calm : ¬IsBaffling contentType content)
    (refused : Client.readText contentType.toList content = .error e) :
    HasNoBody contentType content e

/-- Bytes that are JSON, bytes that break reading down, and bytes with a fault in their text. -/
theorem readsJson_cases (content : List UInt8) :
    (∃ v, SpellsJson content v) ∨ (∃ d, Baffles content d) ∨
      ∃ chars fault, Charset.strict? (Charset.readJson content) = some chars ∧
        Json.readChars .exact chars = .error (.json fault) := by
  cases decoded : Charset.strict? (Charset.readJson content) with
  | none => exact .inr (.inl ⟨.decode, .bytes decoded⟩)
  | some chars =>
    have known := Json.failsOnly_read (String.ofList chars)
    rw [Json.read, String.toList_ofList] at known
    cases found : Json.readChars .exact chars with
    | ok v => exact .inl ⟨v, chars, decoded, found⟩
    | error e =>
      rcases known e found with ⟨fault, rfl⟩ | ⟨d, kind, rfl⟩
      · exact .inr (.inr ⟨chars, fault, rfl, found⟩)
      · exact .inr (.inl ⟨d, .number decoded found kind⟩)

/-- Bytes of a text with a fault do not break reading down, and they are not JSON. -/
theorem not_baffles_of_fault {content : List UInt8} {chars : List Char} {fault : Json.Fault}
    (decoded : Charset.strict? (Charset.readJson content) = some chars)
    (found : Json.readChars .exact chars = .error (.json fault)) :
    (∀ d, ¬Baffles content d) ∧ ∀ v, ¬SpellsJson content v := by
  refine ⟨fun d baffles => ?_, fun v ⟨chars', decoded', spells⟩ => ?_⟩
  · cases baffles with
    | bytes undecodable =>
      rw [decoded] at undecodable
      cases undecodable
    | number text stops kind =>
      cases decoded.symm.trans text
      rw [found] at stops
      cases stops
  · cases decoded.symm.trans decoded'
    rw [found] at spells
    cases spells

namespace Client

variable {response : WireResponse}

/-- Content that is said to be JSON and is JSON has that value. -/
theorem bodyOf_json {v : Value} (filled : response.content ≠ [])
    (told : mentionsJson (contentTypeOf response) = true) (spells : SpellsJson response.content v) :
    bodyOf response = .ok v := by
  obtain ⟨chars, decoded, found⟩ := spells
  rw [bodyOf, if_neg (mt List.isEmpty_iff.mp filled), if_pos told, decoded]
  dsimp only
  rw [found]

/-- Content that is said to be JSON and breaks reading it down has no body. -/
theorem bodyOf_baffles {d : Defect} (filled : response.content ≠ [])
    (told : mentionsJson (contentTypeOf response) = true) (baffles : Baffles response.content d) :
    bodyOf response = .error (.defect d) := by
  rw [bodyOf, if_neg (mt List.isEmpty_iff.mp filled), if_pos told]
  cases baffles with
  | bytes undecodable => rw [undecodable]; rfl
  | number text stops kind =>
    rw [text]
    dsimp only
    rw [stops]

/-- Any other content has its text as its body. -/
theorem bodyOf_text (filled : response.content ≠ [])
    (other : ¬IsJson (contentTypeOf response) response.content)
    (calm : ¬IsBaffling (contentTypeOf response) response.content) :
    bodyOf response = (readText (contentTypeOf response).toList response.content).map fun chars =>
      .text (String.ofList chars) := by
  rw [bodyOf, if_neg (mt List.isEmpty_iff.mp filled)]
  split
  · next told =>
    rcases readsJson_cases response.content with spells | baffles | ⟨chars, fault, decoded, found⟩
    · exact absurd ⟨told, spells⟩ other
    · exact absurd ⟨told, baffles⟩ calm
    · rw [decoded]
      dsimp only
      rw [found]
      rfl
  · rfl

/-- The body that the content stands for is the body. -/
theorem bodyOf_of_isBody {v : Value} (body : IsBody (contentTypeOf response) response.content v)
    (calm : ¬IsBaffling (contentTypeOf response) response.content) : bodyOf response = .ok v := by
  cases body with
  | nothing empty => rw [bodyOf, if_pos (List.isEmpty_iff.mpr empty)]
  | json filled told spells => exact bodyOf_json filled told spells
  | text filled other reads => rw [bodyOf_text filled other calm, reads, Outcome.map_ok]

/-- What keeps the content from having a body is the failure. -/
theorem bodyOf_of_hasNoBody {e : Failure}
    (fails : HasNoBody (contentTypeOf response) response.content e) :
    bodyOf response = .error e := by
  cases fails with
  | baffles filled told baffles => exact bodyOf_baffles filled told baffles
  | unreadable filled other calm refused =>
    rw [bodyOf_text filled other calm, refused, Outcome.map_error]

end Client

/-- Content of any type has a body or is kept from having one. -/
theorem isBody_or_hasNoBody (contentType : String) (content : List UInt8) :
    (¬IsBaffling contentType content ∧ ∃ v, IsBody contentType content v) ∨
      ∃ e, HasNoBody contentType content e := by
  by_cases empty : content = []
  · refine .inl ⟨?_, .null, .nothing empty⟩
    have decoded : Charset.strict? (Charset.readJson []) = some [] := by decide +kernel
    have found : Json.readChars .exact [] = .error (.json ⟨.value, 0, 1, 1⟩) := rfl
    rintro ⟨-, d, baffles⟩
    exact (not_baffles_of_fault decoded found).1 d (empty ▸ baffles)
  by_cases baffling : IsBaffling contentType content
  · obtain ⟨told, d, baffles⟩ := baffling
    exact .inr ⟨_, .baffles empty told baffles⟩
  by_cases json : IsJson contentType content
  · obtain ⟨told, v, spells⟩ := json
    exact .inl ⟨baffling, v, .json empty told spells⟩
  cases reads : Client.readText contentType.toList content with
  | ok chars => exact .inl ⟨baffling, _, .text empty json reads⟩
  | error e => exact .inr ⟨e, .unreadable empty json baffling reads⟩

/-- What a client takes from a response before it looks for a body: the response has ASCII lines,
comes from an address with a scheme, sends the client to no impossible place, and has content that
can be unpacked. -/
structure Takes (wire : WireRequest) (jar : Jar) (now : Present) (response : WireResponse)
    (content : List UInt8) : Prop where
  /-- The lines are ASCII. -/
  ascii : Lines.isAscii response.lines = true
  /-- The address of the request has a scheme. -/
  kind : Client.hasKind wire.url = true
  /-- The client is not sent to an impossible place. -/
  place : Client.misdirection? wire.url (jar.after now wire response) response = .ok none
  /-- The content is unpacked. -/
  unpacks : Packing.undoAll (Packing.ofLines response.lines) response.content = .ok content

/-- A response that does not send the client elsewhere and is not packed is taken as it is. -/
theorem Takes.plain {wire : WireRequest} (jar : Jar) (now : Present) {response : WireResponse}
    (ascii : Lines.isAscii response.lines = true) (kind : Client.hasKind wire.url = true)
    (stays : Redirect.statuses.contains response.status = false)
    (unpacked : Lines.has response.lines "Content-Encoding" = false) :
    Takes wire jar now response response.content := by
  have place : Client.misdirection? wire.url (jar.after now wire response) response = .ok none := by
    rw [Client.misdirection?, stays]
    rfl
  have packings : Packing.ofLines response.lines = [] := by
    have none := Lines.under_eq_nil_of_has unpacked
    unfold Lines.under at none
    rw [Packing.ofLines, none, List.flatMap_nil]
  have unpacks : Packing.undoAll (Packing.ofLines response.lines) response.content =
      .ok response.content := by
    rw [packings]
    rfl
  exact ⟨ascii, kind, place, unpacks⟩

/-- Why a client does not take a response. -/
inductive Drops (request : Request) (wire : WireRequest) (jar : Jar) (now : Present)
    (response : WireResponse) : Failure → Prop
  /-- The lines are not ASCII. -/
  | lines (foreign : Lines.isAscii response.lines = false) :
    Drops request wire jar now response (.defect .encode)
  /-- The address of the request has no scheme, so that it has no cookies. -/
  | kind (ascii : Lines.isAscii response.lines = true)
    (plain : Client.hasKind wire.url = false) : Drops request wire jar now response (.defect .value)
  /-- The place that the client is sent to breaks reading it down. -/
  | place {e : Failure} (ascii : Lines.isAscii response.lines = true)
    (kind : Client.hasKind wire.url = true)
    (breaks : Client.misdirection? wire.url (jar.after now wire response) response = .error e) :
    Drops request wire jar now response e
  /-- The place that the client is sent to is impossible. -/
  | misdirected {reason : String} (ascii : Lines.isAscii response.lines = true)
    (kind : Client.hasKind wire.url = true)
    (sends : Client.misdirection? wire.url (jar.after now wire response) response =
      .ok (some reason)) :
    Drops request wire jar now response (Client.failed request reason)
  /-- The content cannot be unpacked. -/
  | packing {fault : Deflate.Fault} (ascii : Lines.isAscii response.lines = true)
    (kind : Client.hasKind wire.url = true)
    (place : Client.misdirection? wire.url (jar.after now wire response) response = .ok none)
    (broken : Packing.undoAll (Packing.ofLines response.lines) response.content = .error fault) :
    Drops request wire jar now response
      (Client.failed request ("Error -3 while decompressing data: " ++ fault.message))

/-- The headers of a response that is returned. -/
def WireResponse.headers (response : WireResponse) : Headers :=
  (Lines.grouped response.lines).map fun group => (.text group.1, group.2)

/-- What is returned for a response that came back: its status, its headers, and the body that its
content stands for, unless that is said to be JSON and breaks reading it down. -/
def Returns (wire : WireRequest) (jar : Jar) (now : Present) (response : WireResponse)
    (returned : Response) : Prop :=
  ∃ content body, Takes wire jar now response content ∧
    ¬IsBaffling (Client.contentTypeOf response) content ∧
    IsBody (Client.contentTypeOf response) content body ∧
    returned = { status := some response.status, headers := some response.headers, body }

/-- Why nothing is returned for a response that came back. -/
inductive Raises (request : Request) (wire : WireRequest) (jar : Jar) (now : Present)
    (response : WireResponse) : Failure → Prop
  /-- The client does not take the response. -/
  | dropped {e : Failure} (drops : Drops request wire jar now response e) :
    Raises request wire jar now response e
  /-- The content has no body. -/
  | bodiless {content : List UInt8} {e : Failure} (takes : Takes wire jar now response content)
    (fails : HasNoBody (Client.contentTypeOf response) content e) :
    Raises request wire jar now response e

/-- Something is returned or there is a reason why not. -/
theorem returns_or_raises (request : Request) (wire : WireRequest) (jar : Jar) (now : Present)
    (response : WireResponse) :
    (∃ returned, Returns wire jar now response returned) ∨
      ∃ e, Raises request wire jar now response e := by
  cases ascii : Lines.isAscii response.lines with
  | false => exact .inr ⟨_, .dropped (.lines ascii)⟩
  | true =>
    cases kind : Client.hasKind wire.url with
    | false => exact .inr ⟨_, .dropped (.kind ascii kind)⟩
    | true =>
      cases place : Client.misdirection? wire.url (jar.after now wire response) response with
      | error e => exact .inr ⟨e, .dropped (.place ascii kind place)⟩
      | ok sends =>
        cases sends with
        | some reason => exact .inr ⟨_, .dropped (.misdirected ascii kind place)⟩
        | none =>
          cases unpacks : Packing.undoAll (Packing.ofLines response.lines) response.content with
          | error fault => exact .inr ⟨_, .dropped (.packing ascii kind place unpacks)⟩
          | ok content =>
            have takes : Takes wire jar now response content := ⟨ascii, kind, place, unpacks⟩
            rcases isBody_or_hasNoBody (Client.contentTypeOf response) content with
              ⟨calm, body, is⟩ | ⟨e, fails⟩
            · exact .inl ⟨_, content, body, takes, calm, is, rfl⟩
            · exact .inr ⟨e, .bodiless takes fails⟩

namespace Client

variable {request : Request} {wire : WireRequest} {jar : Jar} {now : Present}
variable {response : WireResponse}

/-- A response that is taken is answered by its status, its headers and its body. -/
theorem received_of_takes {content : List UInt8} (takes : Takes wire jar now response content) :
    (received request wire jar now response).1 = (bodyOf { response with content }).map fun body =>
      { status := some response.status, headers := some response.headers, body } := by
  rw [received_eq takes.ascii takes.kind, answerOf, takes.place, Outcome.ok_bind]
  dsimp only
  rw [takes.unpacks]
  rfl

/-- What is to be returned is returned. -/
theorem received_of_returns {returned : Response}
    (returns : Returns wire jar now response returned) :
    (received request wire jar now response).1 = .ok returned := by
  obtain ⟨content, body, takes, calm, is, rfl⟩ := returns
  rw [received_of_takes takes, bodyOf_of_isBody is calm, Outcome.map_ok]

/-- A reason to return nothing is the failure. -/
theorem received_of_raises {e : Failure} (raises : Raises request wire jar now response e) :
    (received request wire jar now response).1 = .error e := by
  cases raises with
  | bodiless takes fails =>
    rw [received_of_takes takes, bodyOf_of_hasNoBody fails, Outcome.map_error]
  | dropped drops =>
    cases drops with
    | lines foreign =>
      rw [received, foreign]
      rfl
    | kind ascii plain =>
      rw [received, ascii, plain]
      rfl
    | place ascii kind breaks =>
      rw [received_eq ascii kind, answerOf, breaks, Outcome.error_bind]
    | misdirected ascii kind sends =>
      rw [received_eq ascii kind, answerOf, sends, Outcome.ok_bind]
    | packing ascii kind place broken =>
      rw [received_eq ascii kind, answerOf, place, Outcome.ok_bind]
      dsimp only
      rw [broken]

end Client

end Http

end Stencil
