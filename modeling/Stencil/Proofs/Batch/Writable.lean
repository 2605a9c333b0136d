import Stencil.Http.Client
import Stencil.Proofs.Build.Plain
import Stencil.Proofs.Http.Merge

/-!
# Writing back what was read

A value that was read from a text is written in three places: where it becomes a document, where the
history with it becomes the document of the next step, and where it is sent as the body of a
request. In all of them it is written, unless it holds a decimal number without a fraction whose
integer is too long. Then each of them breaks down.
-/

namespace Stencil

open Json (integral)
open Value (AllScalars)

/-- A request whose headers have texts as names and whose body has certain scalars. -/
def Request.Holds (p : Value → Prop) (request : Request) : Prop :=
  request.headers.IsJson ∧ AllScalars p request.body

/-- A response whose headers have texts as names and whose status and body have certain scalars. -/
def Response.Holds (p : Value → Prop) (response : Response) : Prop :=
  (∀ status, response.status = some status → p (.int status)) ∧
    (∀ headers, response.headers = some headers → headers.IsJson) ∧ AllScalars p response.body

/-- Messages of a batch with such names and scalars. -/
def History.Holds (p : Value → Prop) (opening : Request) (past : List (Request × Response)) :
    Prop :=
  opening.Holds p ∧ ∀ exchange ∈ past, exchange.1.Holds p ∧ exchange.2.Holds p

/-- A history starts with its opening request alone. -/
theorem History.Holds.start {p : Value → Prop} {opening : Request} (holds : opening.Holds p) :
    Holds p opening [] := ⟨holds, nofun⟩

section

variable {p : Value → Prop} (null : p .null) (texts : ∀ s, p (.text s))

include texts in
/-- Headers hold texts. -/
theorem Headers.allScalars_toValue {headers : Headers} (isJson : headers.IsJson) :
    AllScalars p headers.toValue := by
  obtain ⟨distinct, named⟩ := isJson
  refine ⟨?_, Value.allMembers_iff.mpr fun member among => ?_⟩
  · unfold Fields.AreDistinct at distinct ⊢
    rw [List.map_map]
    exact distinct
  · obtain ⟨header, inside, rfl⟩ := List.mem_map.mp among
    refine ⟨named header inside, Value.allItems_iff.mpr fun item listed => ?_⟩
    obtain ⟨s, -, rfl⟩ := List.mem_map.mp listed
    exact texts s

include null texts

/-- A request holds the scalars of its body, texts, and null. -/
theorem Request.allScalars_toValue {request : Request} (holds : request.Holds p) :
    AllScalars p request.toValue := by
  refine ⟨by simp [Fields.AreDistinct, Key.same_text], ⟨_, rfl⟩, texts _, ⟨_, rfl⟩, ?_, ⟨_, rfl⟩,
    Headers.allScalars_toValue texts holds.1, ⟨_, rfl⟩, holds.2, trivial⟩
  cases request.url with
  | none => exact null
  | some url => exact texts url

/-- A response holds its status, the scalars of its body, texts, and null. -/
theorem Response.allScalars_toValue {response : Response} (holds : response.Holds p) :
    AllScalars p response.toValue := by
  obtain ⟨status, headers, body⟩ := holds
  refine ⟨by simp [Fields.AreDistinct, Key.same_text], ⟨_, rfl⟩, ?_, ⟨_, rfl⟩, ?_, ⟨_, rfl⟩, body,
    trivial⟩
  · cases given : response.status with
    | none => exact null
    | some n => exact status n given
  · cases given : response.headers with
    | none => exact null
    | some names => exact Headers.allScalars_toValue texts (headers names given)

/-- A history holds the scalars of its messages. -/
theorem History.allScalars_toValue {opening : Request} {past : List (Request × Response)}
    (holds : Holds p opening past) : AllScalars p (after opening past).toValue := by
  refine ⟨by simp [Fields.AreDistinct, Key.same_text], ⟨_, rfl⟩,
    Request.allScalars_toValue null texts holds.1, ⟨_, rfl⟩,
    Value.allItems_iff.mpr fun item among => ?_, ⟨_, rfl⟩,
    Value.allItems_iff.mpr fun item among => ?_, trivial⟩
  · obtain ⟨request, requests, rfl⟩ := List.mem_map.mp among
    obtain ⟨exchange, made, rfl⟩ := List.mem_map.mp requests
    exact Request.allScalars_toValue null texts (holds.2 exchange made).1
  · obtain ⟨response, responses, rfl⟩ := List.mem_map.mp among
    obtain ⟨exchange, made, rfl⟩ := List.mem_map.mp responses
    exact Response.allScalars_toValue null texts (holds.2 exchange made).2

end

/-- The body of a response is among what the history holds. -/
theorem History.allScalars_body {p : Value → Prop} {opening : Request}
    {past : List (Request × Response)} (all : AllScalars p (after opening past).toValue)
    {exchange : Request × Response} (made : exchange ∈ past) : AllScalars p exchange.2.body := by
  obtain ⟨-, -, -, -, -, -, responses, -⟩ := all
  have among : exchange.2.toValue ∈ (after opening past).responses.map Response.toValue :=
    List.mem_map_of_mem (List.mem_map_of_mem made)
  obtain ⟨-, -, -, -, -, -, body, -⟩ := Value.allItems_iff.mp responses _ among
  exact body

/-- One more exchange of messages with such names and scalars. -/
theorem History.Holds.concat {p : Value → Prop} {opening : Request}
    {past : List (Request × Response)} {request : Request} {response : Response}
    (holds : Holds p opening past) (sent : request.Holds p) (received : response.Holds p) :
    Holds p opening (past ++ [(request, response)]) := by
  refine ⟨holds.1, fun exchange made => ?_⟩
  rcases List.mem_append.mp made with before | last
  · exact holds.2 exchange before
  · rw [List.mem_singleton.mp last]
    exact ⟨sent, received⟩

/-- A history whose scalars can be written becomes a document. -/
theorem History.document_of_holds {opening : Request} {past : List (Request × Response)}
    (formed : Holds Json.HasForm opening past) (shown : Holds Json.IsShown opening past) :
    (after opening past).document = .ok (pastDocument opening past) := by
  have form := allScalars_toValue trivial (fun _ => trivial) formed
  have all := allScalars_toValue trivial (fun _ => trivial) shown
  obtain ⟨text, written, read⟩ := Json.exists_write_read .spaced form all
  rw [document, Builder.detach, written, Outcome.ok_bind, pastDocument_eq, read]

/-- A history with a body that cannot be written becomes no document. -/
theorem History.document_eq_defect {opening : Request} {past : List (Request × Response)}
    (formed : Holds Json.HasForm opening past) {exchange : Request × Response}
    (made : exchange ∈ past) (hidden : ¬AllScalars Json.IsShown exchange.2.body) :
    (after opening past).document = Outcome.defect .value := by
  have form := allScalars_toValue trivial (fun _ => trivial) formed
  have inside : ¬AllScalars Json.IsShown (after opening past).toValue :=
    fun all => hidden (allScalars_body all made)
  rw [document, Builder.detach,
    Json.write_eq_defect .spaced (Json.allScalars_isOrdinary form) inside]
  rfl

/-- A request is sent with its body as JSON text. -/
theorem Http.Client.exists_prepare {client : Client} {request : Request} {text : String}
    (named : ∀ line ∈ linesOf (merge client.defaults request.headers), ∃ name, line.1 = .text name)
    (written : Json.write .spaced request.body = .ok text) :
    ∃ lines, client.prepare request =
      .ok (lines, if request.body.isNull then "" else text) := by
  rw [prepare_eq named, written]
  cases request.body.isNull <;> exact ⟨_, rfl⟩

/-- A request whose body cannot be written is not sent. -/
theorem Http.Client.prepare_eq_defect {client : Client} {request : Request} {d : Defect}
    (refused : Json.write .spaced request.body = Outcome.defect d) :
    client.prepare request = Outcome.defect d := by
  unfold prepare
  dsimp only
  split
  · next empty =>
    rw [empty] at refused
    cases refused
  · rw [refused]
    rfl

/-- What can be done with a value that is written back. -/
structure IsWrittenBack (v : Value) : Prop where
  /-- It is written in either layout. -/
  written : ∀ layout, ∃ text, Json.write layout v = .ok text
  /-- It becomes a document. -/
  detached : Builder.detach v = .ok (integral v)
  /-- As the body of a response it becomes part of the document of the next step. -/
  recorded : ∀ opening past request status headers, History.Holds Json.HasForm opening past →
    History.Holds Json.IsShown opening past → request.Holds Json.HasForm →
    request.Holds Json.IsShown → (∀ n, status = some n → Number.isLong n = false) →
    (∀ names, headers = some names → Headers.IsJson names) →
    (History.after opening (past ++ [(request, ⟨status, headers, v⟩)])).document =
      .ok (pastDocument opening (past ++ [(request, ⟨status, headers, v⟩)]))
  /-- As the body of a request it is sent, as far as the header names are texts. -/
  sent : ∀ (client : Http.Client) (request : Request),
    (∀ line ∈ Http.Client.linesOf (Http.Client.merge client.defaults request.headers),
      ∃ name, line.1 = .text name) →
    request.body = v → ∃ lines content, client.prepare request = .ok (lines, content)

/-- What a value comes to that is not written back. -/
structure IsNotWrittenBack (v : Value) : Prop where
  /-- It is written in no layout. -/
  written : ∀ layout, Json.write layout v = Outcome.defect .value
  /-- It becomes no document. -/
  detached : Builder.detach v = Outcome.defect .value
  /-- As the body of a response it breaks the batch. -/
  recorded : ∀ opening past request status headers, History.Holds Json.HasForm opening past →
    request.Holds Json.HasForm → (∀ names, headers = some names → Headers.IsJson names) →
    (History.after opening (past ++ [(request, ⟨status, headers, v⟩)])).document =
      Outcome.defect .value
  /-- As the body of a request it is not sent. -/
  sent : ∀ (client : Http.Client) (request : Request), request.body = v →
    client.prepare request = Outcome.defect .value

/-- Everything that is read is written back, unless one of its decimal numbers without a fraction
stands for an integer with too many digits; then nothing of it is. The integers that are read as
such always have few enough. -/
theorem isWrittenBack_of_read {text : String} {v : Value} (h : Json.read text = .ok v) :
    v.holdsLong = false ∧ ((integral v).holdsLong = false → IsWrittenBack v) ∧
      ((integral v).holdsLong = true → IsNotWrittenBack v) := by
  obtain ⟨formed, read⟩ := Json.of_read h
  refine ⟨read, fun short => ?_, fun long => ?_⟩
  · have shown := (Json.allScalars_isShown_iff v formed).mpr short
    have written (layout : Json.Layout) :=
      Json.exists_write layout (Json.allScalars_isOrdinary formed) shown
    obtain ⟨content, spelled⟩ := written .spaced
    refine ⟨written, Builder.detach_of_read h spelled,
      fun opening past request status headers earlier earlier' sent sent' few named => ?_,
      fun client request named same => ?_⟩
    · have received : Response.Holds Json.HasForm ⟨status, headers, v⟩ :=
        ⟨fun _ _ => trivial, named, formed⟩
      have received' : Response.Holds Json.IsShown ⟨status, headers, v⟩ := ⟨few, named, shown⟩
      exact History.document_of_holds (earlier.concat sent received)
        (earlier'.concat sent' received')
    · obtain ⟨lines, prepared⟩ := Http.Client.exists_prepare named (same ▸ spelled)
      exact ⟨lines, _, prepared⟩
  · have hidden : ¬AllScalars Json.IsShown v := by
      rw [Json.allScalars_isShown_iff v formed, long]
      nofun
    have refused (layout : Json.Layout) :=
      Json.write_eq_defect layout (Json.allScalars_isOrdinary formed) hidden
    refine ⟨refused, by rw [Builder.detach, refused]; rfl,
      fun opening past request status headers earlier sent named => ?_,
      fun client request same => Http.Client.prepare_eq_defect (same ▸ refused .spaced)⟩
    have received : Response.Holds Json.HasForm ⟨status, headers, v⟩ :=
      ⟨fun _ _ => trivial, named, formed⟩
    exact History.document_eq_defect (earlier.concat sent received) List.mem_concat_self hidden

/-- A number with a fraction and a word are written back. -/
theorem isWrittenBack_of_read_word :
    let v : Value := .list [.decimal (.finite false 15 (-1)), .binary .undefined]
    Json.read "[1.5, NaN]" = .ok v ∧ Builder.detach v = .ok v := by
  intro v
  have formed : AllScalars Json.HasForm v := ⟨⟨by decide, by decide⟩, trivial, trivial⟩
  have written : Json.write .spaced v = .ok "[1.5, NaN]" := rfl
  have read : Json.read "[1.5, NaN]" = .ok v := Json.read_write_of_hasForm formed written
  exact ⟨read, ((isWrittenBack_of_read read).2.1 rfl).detached⟩

/-- A short text that is read as a number with too many digits to be written. -/
theorem write_eq_defect_of_read :
    let v : Value := .decimal (.finite false 1 5000)
    Json.read "1e5000" = .ok v ∧ ∀ layout, Json.write layout v = Outcome.defect .value := by
  intro v
  have read : Json.read "1e5000" = .ok v := rfl
  refine ⟨read, fun layout => ?_⟩
  cases layout <;> rfl

end Stencil
