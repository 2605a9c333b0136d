import Stencil.Http.Client
import Stencil.Proofs.Batch.Past

/-!
# The headers of a request and the default ones

A request is sent with its own headers and with those default ones whose names it does not use
itself. Names are compared as they are written here. The name of the content type alone is looked
for in any letter case: where the lines have none, a body brings one. A default header is therefore
sent beside a header of the request that is the same but for letter case.
-/

namespace Stencil

open Fields (find? find?_cons find?_insert find?_eq_none_iff find?_eq_none_of_new
  find?_eq_some_iff HasTextKeys)

/-- Whether two names are texts and the same but for letter case. -/
def Key.folds : Key → Key → Bool
  | .text a, .text b => Http.Lines.sameName a b
  | _, _ => false

namespace Http.Client

/-- The texts of the lines with a name, in order. -/
def valuesOf (lines : List (Key × String)) (name : Key) : List String :=
  (lines.filter fun line => line.1 = name).map Prod.snd

/-- The lines are those of the headers, and of the default headers as far as no header has the same
name. -/
structure IsMerged (same : Key → Key → Bool) (defaults headers : Headers)
    (lines : List (Key × String)) : Prop where
  /-- Each header has all its texts. -/
  own : ∀ header ∈ headers, valuesOf lines header.1 = header.2
  /-- Each default header with a name that no header has, has all its texts. -/
  inherited : ∀ header ∈ defaults, (∀ other ∈ headers, same other.1 header.1 = false) →
    valuesOf lines header.1 = header.2
  /-- Each line is of such a header. -/
  nothingElse : ∀ line ∈ lines, (∃ header ∈ headers, header.1 = line.1) ∨
    ∃ header ∈ defaults, header.1 = line.1 ∧ ∀ other ∈ headers, same other.1 header.1 = false

/-- Whether a line tells the content type. -/
def hasType (lines : List (Key × String)) : Bool :=
  lines.any fun line => line.1.folds (.text "Content-Type")

/-- Lines whose names are texts can be searched for the content type. -/
theorem tellsType_eq {lines : List (Key × String)}
    (named : ∀ line ∈ lines, ∃ name, line.1 = .text name) :
    tellsType lines = .ok (hasType lines) := by
  have folded : Text.lower "Content-Type" = Text.lower "content-type" := by decide
  induction lines with
  | nil => rfl
  | cons line rest ih =>
    obtain ⟨name, text, rfl, others⟩ := HasTextKeys.exists_cons named
    have asked : Key.folds (.text name) (.text "Content-Type") =
        Lines.sameName name "content-type" := by
      rw [Key.folds, Lines.sameName, Lines.sameName, folded]
    rw [tellsType, hasType, List.any_cons, asked, ih others]
    cases Lines.sameName name "content-type" <;> rfl

/-- A request is prepared with its lines, with one more for the type of its content if none tells
it, and with its body as JSON text. -/
theorem prepare_eq {c : Client} {request : Request}
    (named : ∀ line ∈ linesOf (merge c.defaults request.headers), ∃ name, line.1 = .text name) :
    c.prepare request =
      if request.body.isNull then .ok (linesOf (merge c.defaults request.headers), "")
      else (Json.write .spaced request.body).map fun content =>
        (linesOf (merge c.defaults request.headers) ++
          (if hasType (linesOf (merge c.defaults request.headers)) then []
            else [(.text "Content-Type", "application/json")]), content) := by
  unfold prepare
  dsimp only
  split
  · next empty =>
    rw [empty]
    rfl
  · next body =>
    have content : request.body.isNull = false := by
      unfold Value.isNull
      split
      · next empty => exact absurd empty body
      · rfl
    rw [content, if_neg Bool.false_ne_true, tellsType_eq named]
    cases Json.write .spaced request.body with
    | error e => rfl
    | ok text =>
      cases hasType (linesOf (merge c.defaults request.headers)) with
      | false => rfl
      | true =>
        rw [if_pos rfl, List.append_nil]
        rfl

/-- A text is among those of a name exactly if there is a line of both. -/
theorem mem_valuesOf_iff {lines : List (Key × String)} {name : Key} {text : String} :
    text ∈ valuesOf lines name ↔ (name, text) ∈ lines := by
  rw [valuesOf, List.mem_map]
  constructor
  · rintro ⟨line, kept, rfl⟩
    obtain ⟨among, same⟩ := List.mem_filter.mp kept
    have named : line.1 = name := of_decide_eq_true same
    rw [← named]
    exact among
  · intro among
    exact ⟨(name, text), List.mem_filter.mpr ⟨among, decide_eq_true rfl⟩, rfl⟩

/-- The lines of one header have its texts under its name and none under another. -/
theorem valuesOf_map (key name : Key) (texts : List String) :
    valuesOf (texts.map fun text => (key, text)) name = if key = name then texts else [] := by
  rw [valuesOf]
  by_cases same : key = name
  · have all : (texts.map fun text => (key, text)).filter (fun line => line.1 = name) =
        texts.map fun text => (key, text) :=
      List.filter_eq_self.mpr (by simpa using fun _ _ => same)
    rw [if_pos same, all, List.map_map]
    exact List.map_id texts
  · have none : (texts.map fun text => (key, text)).filter (fun line => line.1 = name) = [] :=
      List.filter_eq_nil_iff.mpr (by simpa using fun _ _ => same)
    rw [if_neg same, none]
    rfl

/-- The lines of headers with different names have the texts of each under its name. -/
theorem valuesOf_linesOf {headers : Headers} (isJson : headers.IsJson) (name : String) :
    valuesOf (linesOf headers) (.text name) = (find? headers name).getD [] := by
  obtain ⟨distinct, named⟩ := isJson
  induction headers with
  | nil => rfl
  | cons header rest ih =>
    obtain ⟨first, texts, rfl, others⟩ := HasTextKeys.exists_cons named
    obtain ⟨new, distinct⟩ := List.pairwise_cons.mp distinct
    have split : valuesOf (linesOf ((.text first, texts) :: rest)) (.text name) =
        valuesOf (texts.map fun text => (.text first, text)) (.text name) ++
          valuesOf (linesOf rest) (.text name) := by
      rw [linesOf, List.flatMap_cons, valuesOf, List.filter_append, List.map_append]
      rfl
    rw [split, valuesOf_map, ih distinct others, find?_cons]
    by_cases same : first = name
    · subst same
      have absent : find? rest first = none := find?_eq_none_of_new others new
      rw [absent, if_pos rfl, if_pos rfl]
      exact List.append_nil texts
    · have other : ¬Key.text first = .text name := fun equal => same (Key.text.inj equal)
      rw [if_neg same, if_neg other, List.nil_append]

/-- Merged headers have different texts as names if both parts do. -/
theorem isJson_merge {defaults headers : Headers} (isJson : defaults.IsJson)
    (named : HasTextKeys headers) : (merge defaults headers).IsJson := by
  induction headers generalizing defaults with
  | nil => exact isJson
  | cons header rest ih =>
    obtain ⟨name, texts, rfl, others⟩ := HasTextKeys.exists_cons named
    obtain ⟨distinct, texts'⟩ := isJson
    exact ih ⟨distinct.insert _ _, HasTextKeys.insert texts' name texts⟩ others

/-- Under a name merged headers have what the request has, or else what the defaults have. -/
theorem find?_merge {defaults headers : Headers} (named : HasTextKeys defaults)
    (isJson : headers.IsJson) (name : String) :
    find? (merge defaults headers) name = (find? headers name).or (find? defaults name) := by
  obtain ⟨distinct, texts⟩ := isJson
  induction headers generalizing defaults with
  | nil => rfl
  | cons header rest ih =>
    obtain ⟨first, values, rfl, others⟩ := HasTextKeys.exists_cons texts
    obtain ⟨new, distinct⟩ := List.pairwise_cons.mp distinct
    have later := ih (named.insert first values) distinct others
    rw [find?_insert named] at later
    rw [find?_cons]
    refine Eq.trans later ?_
    by_cases same : first = name
    · subst same
      have absent : find? rest first = none := find?_eq_none_of_new others new
      rw [if_pos rfl, if_pos rfl, absent]
      rfl
    · rw [if_neg same, if_neg same]

/-- Merged headers are sent with all texts of the request's own ones, and of the default ones with
names that the request does not use as they are written. -/
theorem isMerged_linesOf {defaults headers : Headers} (isDefault : defaults.IsJson)
    (isOwn : headers.IsJson) : IsMerged (fun a b => decide (a = b)) defaults headers
      (linesOf (merge defaults headers)) := by
  have isMerged := isJson_merge isDefault isOwn.2
  have values (name : String) : valuesOf (linesOf (merge defaults headers)) (.text name) =
      ((find? headers name).or (find? defaults name)).getD [] := by
    rw [valuesOf_linesOf isMerged, find?_merge isDefault.2 isOwn]
  refine ⟨fun header among => ?_, fun header among free => ?_, fun line sent => ?_⟩
  · obtain ⟨name, named⟩ := isOwn.2 header among
    have found : find? headers name = some header.2 :=
      (find?_eq_some_iff isOwn.1 isOwn.2).mpr (by rw [← named]; exact among)
    rw [named, values, found]
    rfl
  · obtain ⟨name, named⟩ := isDefault.2 header among
    have found : find? defaults name = some header.2 :=
      (find?_eq_some_iff isDefault.1 isDefault.2).mpr (by rw [← named]; exact among)
    have absent : find? headers name = none :=
      (find?_eq_none_iff isOwn.2).mpr fun other used => by
        rw [← named]
        exact of_decide_eq_false (free other used)
    rw [named, values, found, absent]
    rfl
  · obtain ⟨header, among, texts⟩ := List.mem_flatMap.mp sent
    obtain ⟨text, -, rfl⟩ := List.mem_map.mp texts
    obtain ⟨name, named⟩ := isMerged.2 header among
    have found : find? (merge defaults headers) name = some header.2 :=
      (find?_eq_some_iff isMerged.1 isMerged.2).mpr (by rw [← named]; exact among)
    rw [find?_merge isDefault.2 isOwn] at found
    dsimp only
    rw [named]
    cases own : find? headers name with
    | some values =>
      exact .inl ⟨_, (find?_eq_some_iff isOwn.1 isOwn.2).mp own, rfl⟩
    | none =>
      rw [own, Option.none_or] at found
      refine .inr ⟨_, (find?_eq_some_iff isDefault.1 isDefault.2).mp found, rfl,
        fun other used => decide_eq_false ?_⟩
      exact (find?_eq_none_iff isOwn.2).mp own other used

/-- The lines are also those of a merge that compares names in any letter case exactly if each
default header that a header of the request is the same as but for letter case is the same as one
of them, or has no texts. -/
theorem isMerged_folds_iff {defaults headers : Headers} {lines : List (Key × String)}
    (named : HasTextKeys defaults)
    (merged : IsMerged (fun a b => decide (a = b)) defaults headers lines) :
    IsMerged Key.folds defaults headers lines ↔
      ∀ header ∈ defaults, (∃ other ∈ headers, other.1.folds header.1 = true) →
        header.1 ∈ headers.map Prod.fst ∨ header.2 = [] := by
  constructor
  · intro folded header among shared
    by_cases own : header.1 ∈ headers.map Prod.fst
    · exact .inl own
    -- a text of the default header is sent, and no clause allows its line
    refine .inr (List.eq_nil_iff_forall_not_mem.mpr fun text listed => ?_)
    have free : ∀ other ∈ headers, decide (other.1 = header.1) = false := fun other used =>
      decide_eq_false fun equal => own (equal ▸ List.mem_map_of_mem used)
    have sent : (header.1, text) ∈ lines := by
      rw [← mem_valuesOf_iff, merged.inherited header among free]
      exact listed
    rcases folded.nothingElse _ sent with ⟨other, used, equal⟩ | ⟨other, -, equal, apart⟩
    · exact own (equal ▸ List.mem_map_of_mem used)
    · obtain ⟨twin, used, same⟩ := shared
      have differs := apart twin used
      rw [equal, same] at differs
      cases differs
  · intro alone
    have folds_self {header : Key × List String} (among : header ∈ defaults) :
        header.1.folds header.1 = true := by
      obtain ⟨name, key⟩ := named header among
      rw [key]
      exact Http.Lines.sameName_self name
    refine ⟨merged.own, fun header among free => ?_, fun line sent => ?_⟩
    · refine merged.inherited header among fun other used => decide_eq_false fun equal => ?_
      have differs := free other used
      rw [equal, folds_self among] at differs
      cases differs
    · rcases merged.nothingElse line sent with own | ⟨header, among, key, free⟩
      · exact .inl own
      · refine .inr ⟨header, among, key, fun other used => Bool.eq_false_iff.mpr fun same => ?_⟩
        rcases alone header among ⟨other, used, same⟩ with own | none
        · obtain ⟨twin, used', equal⟩ := List.mem_map.mp own
          exact of_decide_eq_false (free twin used') equal
        · have listed : line.2 ∈ valuesOf lines header.1 := mem_valuesOf_iff.mpr (key ▸ sent)
          rw [merged.inherited header among free, none] at listed
          cases listed

/-- A request is prepared with all texts of its own headers, with those of the default headers whose
names it does not use as they are written, and with nothing else but the type of its content where
no line tells it in any letter case. Where names are compared in any letter case, these are the
merged lines exactly if no default header with texts is the same as a header of the request but for
letter case. -/
theorem prepare_isMerged {c : Client} {request : Request} (isDefault : c.defaults.IsJson)
    (isOwn : request.headers.IsJson) :
    let lines := linesOf (merge c.defaults request.headers)
    (c.prepare request =
      if request.body.isNull then .ok (lines, "")
      else (Json.write .spaced request.body).map fun content =>
        (lines ++ (if hasType lines then [] else [(.text "Content-Type", "application/json")]),
          content)) ∧
      IsMerged (fun a b => decide (a = b)) c.defaults request.headers lines ∧
      (IsMerged Key.folds c.defaults request.headers lines ↔
        ∀ header ∈ c.defaults, (∃ other ∈ request.headers, other.1.folds header.1 = true) →
          header.1 ∈ request.headers.map Prod.fst ∨ header.2 = []) := by
  intro lines
  have merged := isMerged_linesOf isDefault isOwn
  refine ⟨prepare_eq fun line sent => ?_, merged, isMerged_folds_iff isDefault.2 merged⟩
  obtain ⟨header, among, texts⟩ := List.mem_flatMap.mp sent
  obtain ⟨text, -, rfl⟩ := List.mem_map.mp texts
  exact (isJson_merge isDefault isOwn.2).2 header among

/-- A client with a default header that a request overrides and one that it does not. -/
theorem prepare_isMerged_accept :
    let c : Client := ⟨{}, [(.text "Authorization", ["Bearer abc"]), (.text "Accept", ["*/*"])]⟩
    let request : Request :=
      { headers := [(.text "Accept", ["text/plain", "text/html"])], body := .bool true }
    let lines : List (Key × String) := [(.text "Authorization", "Bearer abc"),
      (.text "Accept", "text/plain"), (.text "Accept", "text/html")]
    c.defaults.IsJson ∧ request.headers.IsJson ∧
      c.prepare request =
        .ok (lines ++ [(.text "Content-Type", "application/json")], "true") ∧
      IsMerged Key.folds c.defaults request.headers lines := by
  intro c request lines
  have isDefault : c.defaults.IsJson := by
    refine ⟨?_, ?_⟩
    · simp [c, Fields.AreDistinct, Key.same_text]
    · simp [c]
  have isOwn : request.headers.IsJson := by
    refine ⟨?_, ?_⟩
    · simp [request, Fields.AreDistinct]
    · simp [request]
  obtain ⟨prepared, -, folded⟩ := @prepare_isMerged c request isDefault isOwn
  have untyped : hasType lines = false := by decide
  refine ⟨isDefault, isOwn, prepared, folded.mpr fun header among shared => .inl ?_⟩
  rcases List.mem_cons.mp among with rfl | later
  · revert shared
    decide
  · rw [List.mem_singleton.mp later]
    exact List.mem_cons_self

/-- A default header is sent beside a header of the request that is the same but for letter case. -/
theorem not_isMerged_prepare :
    let c : Client := ⟨{}, [(.text "Authorization", ["Bearer abc"])]⟩
    let request : Request := { headers := [(.text "authorization", ["Bearer xyz"])] }
    let lines : List (Key × String) := [(.text "Authorization", "Bearer abc"),
      (.text "authorization", "Bearer xyz")]
    c.prepare request = .ok (lines, "") ∧
      ¬IsMerged Key.folds c.defaults request.headers lines := by
  have same : Key.folds (.text "authorization") (.text "Authorization") = true := by decide
  intro c request lines
  refine ⟨rfl, fun merged => ?_⟩
  rcases merged.nothingElse _ List.mem_cons_self with
    ⟨other, used, equal⟩ | ⟨header, -, equal, free⟩
  · rw [List.mem_singleton.mp used] at equal
    simp at equal
  · have differs := free _ List.mem_cons_self
    rw [equal, same] at differs
    cases differs

end Http.Client

end Stencil
