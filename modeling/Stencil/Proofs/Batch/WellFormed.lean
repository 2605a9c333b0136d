import Stencil.Proofs.Batch.Causality
import Stencil.Proofs.Build.Conformance
import Stencil.Proofs.Build.Operation

/-!
# Requests that are sent

A request that a batch announces and sends has a text as its method and lists of texts as headers,
each under a text as its name. Its address is a text too, unless the template of the address is a
path that finds nothing.
-/

namespace Stencil

open Json (HasForm)
open Value (AllScalars)

/-- A request, as queries see it, whose method and address are texts and whose headers are lists of
texts under names that are texts. -/
structure IsWellFormed (request : Value) : Prop where
  /-- The method. -/
  method : ∃ s, request.member "http_method" = .text s
  /-- The address. -/
  url : ∃ s, request.member "url" = .text s
  /-- The headers. -/
  headers : ∃ headers, request.member "headers" = .object headers ∧ ∀ header ∈ headers,
    (∃ name, header.1 = .text name) ∧ ∃ texts : List String, header.2 = .list (texts.map .text)

/-- The template of an address is a path, and the first that it finds, if it finds anything at all,
is null. -/
def FindsNoAddress (url : String) (document : Value) : Prop :=
  (Text.trim url.toList).head? = some '$' ∧
    ∃ v, Path.read document (String.ofList (Text.trim url.toList)) = .ok v ∧
      v.elements.head?.getD .null = .null

namespace Builder

open Expression (Token)

/-- A schema that has a value is evaluated at a level that the limit allows. -/
theorem exists_step_of_evaluate {b : Builder} {schema : Schema} {document v : Value}
    (h : b.evaluate schema document = .ok v) :
    ∃ levels, step b levels (evaluateAt b levels) schema document = .ok v := by
  rw [evaluate] at h
  cases allowed : b.levels with
  | zero =>
    rw [allowed] at h
    cases h
  | succ levels =>
    rw [allowed] at h
    exact ⟨levels, h⟩

section Address

variable {b : Builder} {levels : Nat} {evaluate : Nat → Evaluator} {document v : Value}

/-- A function of the standard registry that is asked for a text gives one. -/
theorem exists_text_of_invoke {name : String} {f : Function} {arguments : List Value}
    (known : Registry.standard.get name = .ok f)
    (h : f.invoke (some (.one .string)) arguments = .ok v) : ∃ s, v = .text s := by
  obtain ⟨produced, -⟩ := Function.of_invoke_eq_ok h
  obtain ⟨among, -⟩ := Registry.of_get_eq_ok known
  rw [Registry.functions_standard] at among
  simp only [Registry.builtins, List.mem_cons, List.not_mem_nil, or_false] at among
  rcases among with rfl | rfl | rfl | rfl | rfl | rfl
  · exact absurd produced (by decide)
  · exact absurd produced (by decide)
  · exact absurd produced (by decide)
  · exact absurd produced (by decide)
  · exact absurd produced (by decide)
  · obtain ⟨kind, same, -, text | ⟨-, may⟩⟩ := Function.yields_concat h
    · cases same
      exact text
    · exact absurd may (by decide)

/-- An expression for a text gives a text, unless it is a path. -/
theorem exists_text_of_scalarValue (standard : b.functions = .standard) {expression : String}
    {body : List Char} {tokens : List Token} (reads : Reads expression (.one .string) body tokens)
    (noPath : ∀ path rest, tokens ≠ .path path :: rest)
    (h : scalarValue b levels evaluate expression document = .ok v) : ∃ s, v = .text s := by
  obtain ⟨⟨word, split, known⟩, tokenized⟩ := reads
  unfold scalarValue at h
  rw [split] at h
  dsimp only at h
  rw [known] at h
  dsimp only at h
  rw [tokenized] at h
  split at h
  · next refused => cases refused
  · next path rest same =>
    cases same
    exact absurd rfl (noPath path rest)
  · next name rest same =>
    cases same
    obtain ⟨⟨value, left⟩, run, rfl⟩ := Outcome.exists_of_map_eq_ok h
    obtain ⟨f, arguments, found, invoked⟩ := exists_invoke_of_runCall run
    rw [standard] at found
    exact exists_text_of_invoke found invoked
  · obtain ⟨text, -, rfl⟩ := Outcome.exists_of_map_eq_ok h
    exact ⟨text, rfl⟩

/-- The value of a path for a text is null if the first value that is found is, and a text
otherwise. -/
theorem null_or_text_of_fromPath {path : String}
    (h : fromPath (.one .string) document path = .ok v) :
    (v = .null ∧ ∃ found, Path.read document path = .ok found ∧
      found.elements.head?.getD .null = .null) ∨
    ((∃ s, v = .text s) ∧ ∀ found, Path.read document path = .ok found →
      found.elements.head?.getD .null ≠ .null) := by
  rw [fromPath_eq] at h
  obtain ⟨found, read, h⟩ := Outcome.exists_of_bind_eq_ok h
  rw [fromFound_one] at h
  by_cases null : found.elements.head?.getD .null = .null
  · rw [null] at h
    cases h
    exact .inl ⟨rfl, found, read, null⟩
  · rw [castItem_of_ne_null _ null] at h
    refine .inr ⟨isOfKind_cast h, fun other read' => ?_⟩
    cases read.symm.trans read'
    exact null

/-- The blanks in front of a text are trimmed once. -/
theorem trim_trimStart (cs : List Char) : Text.trim (Text.trimStart cs) = Text.trim cs := by
  have once : Text.trimStart (Text.trimStart cs) = Text.trimStart cs := by
    have first := Text.head?_trimStart cs
    cases trimmed : Text.trimStart cs with
    | nil => rfl
    | cons c rest =>
      rw [trimmed] at first
      exact Text.trimStart_of_head rest (first c rfl)
  rw [Text.trim, once]
  rfl

/-- The template of an address is the body of an expression for a text, unless it is blank. -/
theorem splitTag?_url (url : String) : splitTag? ("str " ++ url).toList =
    if (Text.trimStart url.toList).isEmpty then none
    else some ("str".toList, Text.trimStart url.toList) := by
  rw [String.toList_append]
  rfl

/-- An expression is a path exactly if a dollar sign comes first. -/
theorem head?_of_tokenize {expression path : String} {rest : List Token}
    (h : Expression.tokenize expression = .ok (.path path :: rest)) :
    (Text.trim expression.toList).head? = some '$' := by
  unfold Expression.tokenize at h
  dsimp only at h
  split at h
  · next dollar => exact dollar
  · split at h
    · cases h
    · split at h
      · cases h
      · cases h
      · obtain ⟨pieces, -, h⟩ := Outcome.exists_of_bind_eq_ok h
        obtain ⟨inside, -, same⟩ := Outcome.exists_of_bind_eq_ok h
        cases same

/-- The value of an address is null exactly if the template finds no address, and a text
otherwise. -/
theorem text_or_null_of_scalarValue (standard : b.functions = .standard) {url : String}
    (h : scalarValue b levels evaluate ("str " ++ url) document = .ok v) :
    (v = .null ∧ FindsNoAddress url document) ∨
      ((∃ s, v = .text s) ∧ ¬FindsNoAddress url document) := by
  let body := Text.trimStart url.toList
  have trimmed : Text.trim (String.ofList body).toList = Text.trim url.toList := by
    rw [String.toList_ofList, trim_trimStart]
  by_cases blank : body.isEmpty
  · have none : splitTag? ("str " ++ url).toList = none := by rw [splitTag?_url, if_pos blank]
    rw [scalarValue, none] at h
    cases h
  have split : splitTag? ("str " ++ url).toList = some ("str".toList, body) := by
    rw [splitTag?_url, if_neg blank]
  have tag : Tag.ofWord? (String.ofList "str".toList) = some (.one .string) :=
    (Tag.ofWord?_words (.one .string)).1
  by_cases dollar : (Text.trim url.toList).head? = some '$'
  · have tokens : Expression.tokenize (String.ofList body) =
        .ok [.path (String.ofList (Text.trim url.toList))] := by
      rw [Expression.tokenize, trimmed]
      exact if_pos dollar
    rw [scalarValue, split] at h
    simp only [tag, tokens] at h
    rcases null_or_text_of_fromPath h with ⟨null, found⟩ | ⟨text, found⟩
    · exact .inl ⟨null, dollar, found⟩
    · refine .inr ⟨text, ?_⟩
      rintro ⟨-, v, read, null⟩
      exact found v read null
  · refine .inr ⟨?_, fun none => dollar none.1⟩
    cases tokens : Expression.tokenize (String.ofList body) with
    | error e =>
      rw [scalarValue, split] at h
      simp only [tag, tokens] at h
      cases h
    | ok tokens' =>
      refine exists_text_of_scalarValue standard ⟨⟨_, split, tag⟩, tokens⟩ ?_ h
      rintro path rest rfl
      have first := head?_of_tokenize tokens
      rw [trimmed] at first
      exact dollar first

/-- The address that is built is missing exactly if the template finds none. -/
theorem buildUrl_eq_none_iff (standard : b.functions = .standard) {template : String}
    {url : Option String} (h : b.buildUrl template document = .ok url) :
    url = none ↔ FindsNoAddress template document := by
  obtain ⟨v, built, h⟩ := Outcome.exists_of_bind_eq_ok h
  obtain ⟨compiled, same, evaluated⟩ := Outcome.exists_of_bind_eq_ok built
  cases same
  obtain ⟨levels, taken⟩ := exists_step_of_evaluate evaluated
  rcases text_or_null_of_scalarValue standard taken with ⟨rfl, finds⟩ | ⟨⟨s, rfl⟩, other⟩
  · cases h
    exact ⟨fun _ => finds, fun _ => rfl⟩
  · cases h
    exact ⟨nofun, fun finds => absurd finds other⟩

end Address

section Headers

variable {b : Builder} {document : Value}

/-- Headers of members have their keys. -/
theorem keys_of_ofMembers {text : Value → Outcome String} {members : List (Key × Value)}
    {headers : Headers} (h : Headers.ofMembers text members = .ok headers) :
    headers.map Prod.fst = members.map Prod.fst := by
  unfold Headers.ofMembers at h
  induction members generalizing headers with
  | nil =>
    cases h
    rfl
  | cons member rest ih =>
    rw [List.mapM_cons] at h
    obtain ⟨header, given, h⟩ := Outcome.exists_of_bind_eq_ok h
    obtain ⟨others, found, h⟩ := Outcome.exists_of_bind_eq_ok h
    obtain ⟨texts, -, same⟩ := Outcome.exists_of_bind_eq_ok given
    cases h
    cases same
    rw [List.map_cons, List.map_cons, ih found]

/-- Headers that are built have different texts as their names. -/
theorem isJson_of_buildHeaders (standard : b.functions = .standard)
    (formed : AllScalars HasForm document) {schema : Value} {headers : Headers}
    (h : b.buildHeaders schema document = .ok headers) : headers.IsJson := by
  obtain ⟨v, built, h⟩ := Outcome.exists_of_bind_eq_ok h
  cases v with
  | object members =>
    obtain ⟨distinct, all⟩ := isKept_of_build standard formed built
    have keys := keys_of_ofMembers h
    refine ⟨?_, fun header among => ?_⟩
    · rw [Fields.AreDistinct, keys]
      exact distinct
    · have inside : header.1 ∈ members.map Prod.fst := keys ▸ List.mem_map_of_mem among
      obtain ⟨member, given, same⟩ := List.mem_map.mp inside
      rw [← same]
      exact (Value.allMembers_iff.mp all member given).1
  | _ => cases h

end Headers

section Requests

variable {b : Builder} {document : Value} {template : RequestTemplate} {request : Request}

/-- The parts of a request are built one after the other; a part without a schema is empty. -/
theorem buildRequest_eq (b : Builder) (template : RequestTemplate) (document : Value) :
    b.buildRequest template document = (do
      let url ← b.buildUrl template.url document
      let body ← template.body.elim (.ok .null) fun schema => b.build schema document
      let headers ← template.headers.elim (.ok []) fun schema => b.buildHeaders schema document
      return { method := template.method, url, headers, body }) := by
  unfold buildRequest
  cases template.body <;> cases template.headers <;> rfl

/-- A request that is built has texts under the names of its headers, and it has no address exactly
if the template finds none. -/
theorem of_buildRequest (standard : b.functions = .standard)
    (formed : AllScalars HasForm document) (h : b.buildRequest template document = .ok request) :
    (∀ header ∈ request.headers, ∃ name, header.1 = .text name) ∧
      (request.url = none ↔ FindsNoAddress template.url document) := by
  rw [buildRequest_eq] at h
  obtain ⟨url, address, h⟩ := Outcome.exists_of_bind_eq_ok h
  obtain ⟨body, -, h⟩ := Outcome.exists_of_bind_eq_ok h
  obtain ⟨headers, named, same⟩ := Outcome.exists_of_bind_eq_ok h
  cases same
  refine ⟨?_, buildUrl_eq_none_iff standard address⟩
  cases schema : template.headers with
  | none =>
    rw [schema] at named
    cases named
    exact nofun
  | some schema' =>
    rw [schema] at named
    exact (isJson_of_buildHeaders standard formed named).2

end Requests

end Builder

/-- The members of the value of a request. -/
theorem Request.member_toValue (request : Request) :
    request.toValue.member "http_method" = .text request.method ∧
    request.toValue.member "url" = Value.ofOption .text request.url ∧
    request.toValue.member "headers" = request.headers.toValue := by
  simp [toValue, Value.member, Fields.find?, Fields.get?, Key.same_text]

/-- A request with an address is well formed if the names of its headers are texts. -/
theorem Request.isWellFormed {request : Request}
    (names : ∀ header ∈ request.headers, ∃ name, header.1 = .text name) {url : String}
    (address : request.url = some url) : IsWellFormed request.toValue := by
  obtain ⟨method, place, headers⟩ := request.member_toValue
  rw [address] at place
  refine ⟨⟨_, method⟩, ⟨url, place⟩, _, headers, fun header among => ?_⟩
  obtain ⟨entry, inside, rfl⟩ := List.mem_map.mp among
  exact ⟨names entry inside, entry.2, rfl⟩

/-- What a batch that is built with the standard functions sends, whatever the dispatcher answers.
Each request is announced and sent; it was built from a template of the batch and the document of
the exchanges before it. It is well formed if the template finds an address there, as it does if
the address is no path. Otherwise the address, and nothing but the address, is missing. -/
theorem isWellFormed_of_sent {τ : Type} {limit : Int}
    {dispatch : Request → τ → Outcome Response × τ} {clock : τ → Binary64 × τ} {opening : Request}
    {world : τ} {template : BatchTemplate} {k : Nat} {request : Request}
    (sent : (recordedRun ⟨.standard, limit⟩ dispatch clock opening world template).2.sent[k]? =
      some request) :
    (recordedRun ⟨.standard, limit⟩ dispatch clock opening world template).2.announced[k]? =
      some request ∧
    ∃ stage asked, Records ⟨.standard, limit⟩ dispatch clock opening world template stage ∧
      stage.past.length = k ∧ template.requests[k]? = some asked ∧
      (⟨.standard, limit⟩ : Builder).buildRequest asked stage.document = .ok request ∧
      (¬FindsNoAddress asked.url stage.document → IsWellFormed request.toValue) ∧
      (FindsNoAddress asked.url stage.document →
        request.url = none ∧ ∀ url, IsWellFormed { request with url := some url }.toValue) := by
  refine ⟨announced_eq_sent ▸ sent, ?_⟩
  obtain ⟨stage, records, rfl, next⟩ := getElem?_sent_iff.mp sent
  obtain ⟨asked, asks, built⟩ := Stage.next?_eq_some_iff.mp next
  have formed := Builder.hasForm_of_detach records.recorded
  obtain ⟨names, missing⟩ := Builder.of_buildRequest rfl formed built
  refine ⟨stage, asked, records, rfl, asks, built, fun finds => ?_, fun none => ?_⟩
  · obtain ⟨url, address⟩ := Option.ne_none_iff_exists'.mp (mt missing.mp finds)
    exact request.isWellFormed names address
  · exact ⟨missing.mpr none, fun url => Request.isWellFormed names rfl⟩

/-- The request of a plain address is well formed. -/
theorem isWellFormed_of_sent_plain :
    let dispatch (_ : Request) (_ : Unit) : Outcome Response × Unit := (.ok {}, ())
    let clock (_ : Unit) : Binary64 × Unit := (.zero false, ())
    (recordedRun ⟨.standard, 100⟩ dispatch clock {} () ⟨[{ url := "x" }], none⟩).2.sent[0]? =
      some { url := some "x" } ∧
    IsWellFormed ({ url := some "x" } : Request).toValue := by
  intro dispatch clock
  have start := reached_start ⟨.standard, 100⟩ (Recorder.recording dispatch clock)
    ⟨[{ url := "x" }], none⟩ ⟨(), []⟩
  have built : (⟨.standard, 100⟩ : Builder).buildRequest { url := "x" } (pastDocument {} []) =
    .ok { url := some "x" } := rfl
  have sent := getElem?_sent_iff.mpr
    ⟨_, start, rfl, Stage.next?_eq_some_iff.mpr ⟨_, rfl, built⟩⟩
  obtain ⟨-, stage, asked, -, -, asks, -, found, -⟩ := isWellFormed_of_sent sent
  cases asks
  exact ⟨sent, found fun none => absurd none.1 (by decide)⟩

/-- The template of an address may be a path that finds nothing; the request is sent without an
address. -/
theorem not_isWellFormed_of_sent :
    let data : Value := .object [(.text "requests", .list [
      .object [(.text "url", .text "$.x")]])]
    let template : BatchTemplate := ⟨[{ url := "$.x" }], none⟩
    let dispatch (_ : Request) (_ : Unit) : Outcome Response × Unit := (.ok {}, ())
    let clock (_ : Unit) : Binary64 × Unit := (.zero false, ())
    BatchTemplate.ofValue none data = .ok template ∧ Request.ofValue none .null = .ok {} ∧
    (recordedRun ⟨.standard, 100⟩ dispatch clock {} () template).2.sent[0]? =
      some { url := none } ∧
    ¬IsWellFormed ({ url := none } : Request).toValue := by
  intro data template dispatch clock
  have start := reached_start ⟨.standard, 100⟩ (Recorder.recording dispatch clock) template
    ⟨(), []⟩
  have built : (⟨.standard, 100⟩ : Builder).buildRequest { url := "$.x" }
    (pastDocument {} []) = .ok { url := none } := rfl
  have sent := getElem?_sent_iff.mpr
    ⟨_, start, rfl, Stage.next?_eq_some_iff.mpr ⟨_, rfl, built⟩⟩
  refine ⟨rfl, rfl, sent, fun formed => ?_⟩
  obtain ⟨s, url⟩ := formed.url
  cases url

end Stencil
