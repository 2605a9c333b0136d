import Stencil.Http.Client
import Stencil.Proofs.Http.Line
import Stencil.Proofs.Outcome

/-!
# What cookies change on the wire

The jar of a client has a say in a request on the wire at one point only, and all that it can do
there is to add a line. So a request is put on the wire as without any cookies, or with one line
more that sends cookies, or, if its address has no scheme, not at all.
-/

namespace Stencil.Http.Client

open Lines (IsInserted sameName under)

/-- The address, the lines and the content of a request before cookies are looked for. -/
def outset (c : Client) (request : Request) : Outcome (Url × Lines × String) := do
  let (prepared, content) ← c.prepare request
  let text ← match request.url with
    | some text => pure text
    | none => Outcome.defect .type
  let url ← ofUrl (Url.resolve c.base text.toList)
  return (url, Lines.overriding standardLines (← wireLines prepared), content)

/-- The lines with the one that tells the length of the content. -/
def withLength (content : String) (lines : Lines) : Lines :=
  if content.isEmpty then lines
  else Lines.putDefault lines "Content-Length"
    (String.ofList (Number.digits content.utf8ByteSize))

/-- All lines of a request, after cookies have been looked for. -/
def completed (method : String) (url : Url) (content : String) (lines : Lines) : Lines :=
  withCredentials url
    (leadingLines method url (withLength content lines) ++ withLength content lines)

/-- A request is put on the wire in two parts, with a look for cookies between them. -/
theorem wireRequest_eq (c : Client) (jar : Jar) (now : Int) (request : Request) :
    c.wireRequest jar now request = (do
      let (url, lines, content) ← c.outset request
      let lines ← withCookies jar now url lines
      return {
        method := Text.upper request.method, url
        lines := completed (Text.upper request.method) url content lines, content }) := by
  unfold wireRequest outset
  rw [bind_assoc]
  refine congrArg _ (funext fun prepared => ?_)
  cases request.url with
  | none => rfl
  | some text =>
    simp only [bind_assoc, pure_bind]
    rfl

section

variable {method : String} {url : Url} {content : String} {lines more : Lines} {value : String}

/-- A line of cookies stays one line more when the length is told. -/
theorem withLength_inserted (content : String)
    (inserted : IsInserted ("Cookie", value) lines more) :
    IsInserted ("Cookie", value) (withLength content lines) (withLength content more) := by
  have differ : sameName "Cookie" "Content-Length" = false := by decide
  unfold withLength
  split
  · exact inserted
  · exact inserted.putDefault _ differ

/-- A line of cookies does not count for the lines that lead. -/
theorem leadingLines_inserted (inserted : IsInserted ("Cookie", value) lines more) :
    leadingLines method url more = leadingLines method url lines := by
  have host : sameName "Cookie" "Host" = false := by decide
  have length : sameName "Cookie" "Content-Length" = false := by decide
  have transfer : sameName "Cookie" "Transfer-Encoding" = false := by decide
  unfold leadingLines
  rw [inserted.has_eq host, inserted.has_eq length, inserted.has_eq transfer]

/-- A line of cookies stays one line more when the user is proved. -/
theorem withCredentials_inserted (inserted : IsInserted ("Cookie", value) lines more) :
    IsInserted ("Cookie", value) (withCredentials url lines) (withCredentials url more) := by
  have differ : sameName "Cookie" "Authorization" = false := by decide
  unfold withCredentials
  split
  · exact inserted
  · exact inserted.put _ differ

/-- A line of cookies stays one line more to the end. -/
theorem completed_inserted (inserted : IsInserted ("Cookie", value) lines more) :
    IsInserted ("Cookie", value) (completed method url content lines)
      (completed method url content more) := by
  have withLength := withLength_inserted content inserted
  unfold completed
  rw [leadingLines_inserted withLength]
  exact withCredentials_inserted (withLength.append_left _)

/-- Telling the length changes nothing under another name. -/
theorem under_withLength {name : String} (differ : sameName "Content-Length" name = false) :
    under (withLength content lines) name = under lines name := by
  unfold withLength
  split
  · rfl
  · exact Lines.under_putDefault _ differ

/-- Proving the user changes nothing under another name. -/
theorem under_withCredentials {name : String} (differ : sameName "Authorization" name = false) :
    under (withCredentials url lines) name = under lines name := by
  unfold withCredentials
  split
  · rfl
  · exact Lines.under_put _ differ

/-- Under a name of which no line is added, the lines of a request are those that were there. -/
theorem under_completed {name : String} (credentials : sameName "Authorization" name = false)
    (length : sameName "Content-Length" name = false)
    (leading : ∀ lines, under (leadingLines method url lines) name = []) :
    under (completed method url content lines) name = under lines name := by
  rw [completed, under_withCredentials credentials, Lines.under_append, leading,
    List.nil_append, under_withLength length]

/-- No line of cookies is added after cookies have been looked for. -/
theorem under_completed_cookie :
    under (completed method url content lines) "Cookie" = under lines "Cookie" := by
  have host : sameName "Host" "Cookie" = false := by decide
  have length : sameName "Content-Length" "Cookie" = false := by decide
  refine under_completed (by decide) length fun lines => ?_
  unfold leadingLines under
  split <;> split <;> simp [host, length]

/-- An address without an authority has no host. -/
theorem host_of_authority_isEmpty (none : url.authority.isEmpty = true) : url.host = [] := by
  rw [List.isEmpty_iff, Url.authority, List.append_eq_nil_iff] at none
  obtain ⟨-, host⟩ := none
  rw [Url.netloc, List.append_eq_nil_iff] at host
  have plain := host.1
  split at plain
  · cases plain
  · exact plain

/-- Without an authority the lines that tell the host are those that were there. -/
theorem under_completed_host (none : url.authority.isEmpty = true) :
    under (completed method url content lines) "Host" = under lines "Host" := by
  have length : sameName "Content-Length" "Host" = false := by decide
  refine under_completed (by decide) length fun lines => ?_
  unfold leadingLines under
  rw [host_of_authority_isEmpty none]
  split <;> split <;> simp_all

/-- For cookies the site of a request is known before cookies are looked for. -/
theorem ofUrl_completed :
    CookieSite.ofUrl url (completed method url content lines) = CookieSite.ofUrl url lines := by
  unfold CookieSite.ofUrl
  by_cases none : url.authority.isEmpty = true
  · rw [Lines.combined?_eq_of_under (under_completed_host none)]
  · rw [if_neg none, if_neg none]

end

/-- Without cookies it does not matter when a request is sent. -/
theorem wireRequest_nil (c : Client) (now other : Int) (request : Request) :
    c.wireRequest [] now request = c.wireRequest [] other request := by
  rw [wireRequest_eq, wireRequest_eq]
  simp only [withCookies_nil]

/-- What is put on the wire with the cookies of a jar, next to what is put there without any. -/
theorem wireRequest_cases (c : Client) (jar : Jar) (now : Int) (request : Request) :
    c.wireRequest jar now request = c.wireRequest [] now request ∨
    ∃ wire, c.wireRequest [] now request = .ok wire ∧
      ((hasKind wire.url = false ∧ jar.cookies ≠ [] ∧
        ∃ e, c.wireRequest jar now request = .error e) ∨
      ∃ value lines, jar.line? now (CookieSite.ofUrl wire.url wire.lines) = some value ∧
        Lines.has wire.lines "Cookie" = false ∧ IsInserted ("Cookie", value) wire.lines lines ∧
        c.wireRequest jar now request = .ok { wire with lines }) := by
  rw [wireRequest_eq, wireRequest_eq]
  cases c.outset request with
  | error e => exact .inl rfl
  | ok opened =>
    obtain ⟨url, lines, content⟩ := opened
    simp only [Outcome.ok_bind, withCookies_nil]
    unfold withCookies
    by_cases empty : jar.cookies.isEmpty = true
    · rw [if_pos empty]
      exact .inl rfl
    rw [if_neg empty]
    cases kind : hasKind url with
    | false => exact .inr ⟨_, rfl, .inl ⟨kind, mt List.isEmpty_iff.mpr empty, _, rfl⟩⟩
    | true =>
      cases sends : jar.line? now (CookieSite.ofUrl url lines) with
      | none => exact .inl rfl
      | some value =>
        cases own : Lines.has lines "Cookie" with
        | true =>
          simp only [Lines.putDefault, own]
          exact .inl rfl
        | false =>
          refine .inr ⟨_, rfl, .inr ⟨value, _, ?_, ?_, ?_, rfl⟩⟩
          · rw [ofUrl_completed, sends]
          · rw [Lines.has_eq_under, under_completed_cookie, ← Lines.has_eq_under, own]
          · refine completed_inserted ?_
            rw [Lines.putDefault, own]
            exact .last _ lines

end Stencil.Http.Client
