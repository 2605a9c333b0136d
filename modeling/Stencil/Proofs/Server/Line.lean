import Stencil.Proofs.Http.Line
import Stencil.Proofs.Server.Answer

/-!
# The header lines of a reply

The headers of a response become lines of the reply, one for each text, in order. Content types are
apart: of all headers that are named so in whatever letter case, the last one that has a text counts
with its first text, and the reply has one line that tells it.

Each header adds to the lines of other names or replaces the one that tells the content type, so
the two parts of the lines are followed separately through all headers.
-/

namespace Stencil.Reply

open Http (Lines)
open Http.Lines (sameName under without)

/-- The name of a content type in lower case is the same as the usual one. -/
theorem sameName_contentType (name : String) :
    sameName name "content-type" = sameName name "Content-Type" := by
  have same : Text.lower "content-type" = Text.lower "Content-Type" := by decide
  unfold sameName
  rw [same]

/-- The lines for all texts of the headers that are no content types. -/
def otherLines (headers : List (String × List String)) : Lines :=
  (headers.filter fun header => !sameName header.1 "Content-Type").flatMap fun header =>
    header.2.map fun text => (header.1, text)

/-- The first text of the last content type that has one. -/
def contentType? (headers : List (String × List String)) : Option String :=
  ((headers.filter fun header => sameName header.1 "Content-Type").filterMap fun header =>
    header.2.head?).getLast?

/-- The lines for two groups of headers follow each other. -/
theorem otherLines_append (headers others : List (String × List String)) :
    otherLines (headers ++ others) = otherLines headers ++ otherLines others := by
  simp [otherLines]

/-- A content type of later headers goes before one of earlier headers. -/
theorem contentType?_append (headers others : List (String × List String)) :
    contentType? (headers ++ others) = (contentType? others).or (contentType? headers) := by
  simp [contentType?, List.getLast?_append]

section

variable (lines : Lines) (name : String) (texts : List String)

/-- The lines for the texts of a header have its name only. -/
theorem has_texts {name other : String} (differ : sameName name other = false) :
    Lines.has (texts.map fun text => (name, text)) other = false := by
  simp [Lines.has, differ]

/-- A header adds its lines to those of other names, unless it is a content type. -/
theorem without_withHeader :
    without (withHeader lines name texts) "Content-Type" =
      without lines "Content-Type" ++ otherLines [(name, texts)] := by
  unfold withHeader
  rw [sameName_contentType]
  cases named : sameName name "Content-Type" with
  | true =>
    have none : otherLines [(name, texts)] = [] := by simp [otherLines, named]
    rw [none, List.append_nil, if_pos rfl]
    cases texts with
    | nil => rfl
    | cons first rest => exact Lines.without_put ..
  | false =>
    have all : otherLines [(name, texts)] = texts.map fun text => (name, text) := by
      simp [otherLines, named]
    have apart := has_texts texts named
    rw [all, if_neg nofun, Lines.without_append, Lines.without_eq_self_of_has apart]

/-- A content type with a text is the only one there is afterwards. -/
theorem under_withHeader :
    under (withHeader lines name texts) "Content-Type" =
      ((contentType? [(name, texts)]).map fun text => [("Content-Type", text)]).getD
        (under lines "Content-Type") := by
  unfold withHeader
  rw [sameName_contentType]
  cases named : sameName name "Content-Type" with
  | true =>
    have told : contentType? [(name, texts)] = texts.head? := by
      cases texts <;> simp [contentType?, named]
    rw [told, if_pos rfl]
    cases texts with
    | nil => rfl
    | cons first rest => exact Lines.under_put_self ..
  | false =>
    have none : contentType? [(name, texts)] = none := by simp [contentType?, named]
    have apart := has_texts texts named
    rw [none, if_neg nofun, Lines.under_append, Lines.under_eq_nil_of_has apart, List.append_nil]
    rfl

end

/-- Headers whose names are texts add the lines of all that are no content types, and the last
content type with a text replaces those that were there. -/
theorem exists_withHeaders_eq (headers : List (String × List String)) (lines : Lines) :
    ∃ more, withHeaders lines (headers.map fun header => (.text header.1, header.2)) = .ok more ∧
      without more "Content-Type" = without lines "Content-Type" ++ otherLines headers ∧
      under more "Content-Type" =
        ((contentType? headers).map fun text => [("Content-Type", text)]).getD
          (under lines "Content-Type") := by
  induction headers generalizing lines with
  | nil => exact ⟨lines, rfl, (List.append_nil _).symm, rfl⟩
  | cons header rest ih =>
    obtain ⟨name, texts⟩ := header
    obtain ⟨more, made, others, told⟩ := ih (withHeader lines name texts)
    have first : (name, texts) :: rest = [(name, texts)] ++ rest := rfl
    refine ⟨more, made, ?_, ?_⟩
    · rw [others, without_withHeader, first, otherLines_append, List.append_assoc]
    · rw [told, under_withHeader, first, contentType?_append]
      cases contentType? rest <;> rfl

/-- The lines of the reply to a response whose headers have texts as their names, whatever the
headers are. The headers do not keep the reply from being made. Of other names than that of the
content type, it has a line for each text of each header and no more, in order of the headers and of
the texts of one. There is one content type: the first text of the last header that is named so, in
whatever letter case, and has a text, or that of JSON if there is none. -/
theorem ofResponse_of_headers {response : Response} {headers : List (String × List String)}
    (given : response.headers.getD [] = headers.map fun header => (.text header.1, header.2)) :
    ∃ lines,
      ofResponse response = (Json.write .spaced response.body).map (fun content =>
        { status := (response.status.filter (· ≠ 0)).getD 200, lines, content }) ∧
      without lines "Content-Type" = otherLines headers ∧
      under lines "Content-Type" =
        [("Content-Type", (contentType? headers).getD "application/json; charset=utf-8")] := by
  obtain ⟨lines, made, others, told⟩ := exists_withHeaders_eq headers [jsonLine]
  rw [← given] at made
  refine ⟨lines, ofResponse_eq made, ?_, ?_⟩
  · have none : without [jsonLine] "Content-Type" = [] := by decide
    rw [others, none, List.nil_append]
  · have default : under [jsonLine] "Content-Type" = [jsonLine] := by decide
    rw [told, default]
    cases contentType? headers <;> rfl

/-- Content types that come more than once and in different letter cases, the last one without a
text, next to other names that are the same but for letter case. -/
theorem ofResponse_of_headers_mixed :
    let headers := [("Content-type", ["text/html"]), ("X-Tag", ["1", "1"]),
      ("CONTENT-TYPE", ["text/csv", "text/plain"]), ("x-tag", ["2"]), ("content-type", [])]
    let response : Response :=
      { headers := some (headers.map fun header => (.text header.1, header.2)) }
    response.headers.getD [] = headers.map (fun header => (.text header.1, header.2)) ∧
    ∃ lines, ofResponse response = .ok { status := 200, lines, content := "null" } ∧
      without lines "Content-Type" = [("X-Tag", "1"), ("X-Tag", "1"), ("x-tag", "2")] ∧
      under lines "Content-Type" = [("Content-Type", "text/csv")] := by
  intro headers response
  have given : response.headers.getD [] =
    headers.map fun header => (.text header.1, header.2) := rfl
  have rest : otherLines headers = [("X-Tag", "1"), ("X-Tag", "1"), ("x-tag", "2")] := by
    decide +kernel
  have last : contentType? headers = some "text/csv" := by decide +kernel
  obtain ⟨lines, made, others, told⟩ := ofResponse_of_headers given
  rw [rest] at others
  rw [last] at told
  exact ⟨given, lines, made, others, told⟩

end Stencil.Reply
