import Stencil.Batch.Template
import Stencil.Proofs.Cast.Failure

/-!
# Reading batch templates

Data that was read from a text is taken for a batch template or refused with an error for the
caller. Only methods and unknown keys are shown while a template is read, and of such data no number
is too long to be shown and every key is a text.
-/

namespace Stencil.BatchTemplate

open Json (IsReadable)
open Outcome (FailsOnly)
open Value (AllScalars AllItems AllMembers)

/-- A member that is found has scalars of the kind that all members have. -/
theorem allScalars_of_find? {p : Value → Prop} {members : List (Key × Value)} {name : String}
    {v : Value} (all : AllMembers p members) (found : Fields.find? members name = some v) :
    AllScalars p v := by
  obtain ⟨key, among⟩ := Fields.exists_mem_of_find? found
  exact (Value.allMembers_iff.mp all _ among).2

/-- The plain text of data that was read. -/
theorem exists_plainText {v : Value} (readable : AllScalars IsReadable v) :
    ∃ s, Headers.plainText v = .ok s := by
  have short := Value.holdsLong_eq_false v (AllScalars.mono (fun _ scalar => scalar.2) v readable)
  exact ⟨_, by rw [Headers.plainText, short]; rfl⟩

variable {source : Option String}

/-- The method of a request is read. -/
theorem exists_methodOf {members : List (Key × Value)} (all : AllMembers IsReadable members) :
    ∃ method, methodOf members = .ok method := by
  have given : AllScalars IsReadable
      (((Fields.find? members "http_method").orElse fun _ =>
        Fields.find? members "method").getD (.text "GET")) := by
    cases first : Fields.find? members "http_method" with
    | some v => exact allScalars_of_find? all first
    | none =>
      cases second : Fields.find? members "method" with
      | some v => exact allScalars_of_find? all second
      | none => exact ⟨trivial, rfl⟩
  obtain ⟨s, plain⟩ := exists_plainText given
  exact ⟨_, by rw [methodOf, plain]; rfl⟩

/-- A problem is an error for the caller. -/
theorem failsOnly_refuse {α : Type} (problem : ConfigProblem) :
    FailsOnly Failure.IsError (refuse problem source : Outcome α) :=
  .error ⟨_, rfl⟩

/-- Keys that are texts have plain texts. -/
theorem failsOnly_refuseKeys {α : Type} (problem : List String → ConfigProblem) {keys : List Key}
    (texts : ∀ key ∈ keys, ∃ name, key = .text name) :
    FailsOnly Failure.IsError (refuseKeys problem source keys : Outcome α) := by
  refine FailsOnly.bind (.mapM_of_mem fun key among => ?_) fun names => failsOnly_refuse _
  obtain ⟨name, rfl⟩ := texts key among
  exact .ok name

/-- An unknown key is one of a member. -/
theorem exists_mem_of_mem_unknownKeys {known : List String} {members : List (Key × Value)}
    {key : Key} (among : key ∈ unknownKeys known members) : ∃ v, (key, v) ∈ members := by
  obtain ⟨⟨_, v⟩, inside, rfl⟩ := List.mem_map.mp among
  exact ⟨v, (List.mem_filter.mp inside).1⟩

/-- Unknown keys of data that was read are refused. -/
theorem failsOnly_refuseKeys_unknown {α : Type} (problem : List String → ConfigProblem)
    (known : List String) {members : List (Key × Value)} (all : AllMembers IsReadable members) :
    FailsOnly Failure.IsError
      (refuseKeys problem source (unknownKeys known members) : Outcome α) := by
  refine failsOnly_refuseKeys problem fun key among => ?_
  obtain ⟨v, inside⟩ := exists_mem_of_mem_unknownKeys among
  exact (Value.allMembers_iff.mp all _ inside).1

/-- The template of a request is read or refused. -/
theorem failsOnly_readRequest (number : Nat) {v : Value} (readable : AllScalars IsReadable v) :
    FailsOnly Failure.IsError (readRequest source number v) := by
  unfold readRequest
  split
  · split
    · split
      · exact failsOnly_refuse _
      · split
        · obtain ⟨method, given⟩ := exists_methodOf readable.2
          rw [given]
          exact .ok _
        · exact failsOnly_refuseKeys_unknown _ _ readable.2
    · exact failsOnly_refuse _
  · exact failsOnly_refuse _

/-- The templates of requests are read or refused. -/
theorem failsOnly_readRequests (number : Nat) {items : List Value}
    (readable : AllItems IsReadable items) :
    FailsOnly Failure.IsError (readRequests source number items) := by
  induction items generalizing number with
  | nil => exact .ok _
  | cons item rest ih =>
    rw [readRequests]
    exact (failsOnly_readRequest number readable.1).bind fun request =>
      (ih (number + 1) readable.2).bind fun requests => .ok _

/-- The template of a response is read or refused. -/
theorem failsOnly_readResponse {v : Value} (readable : AllScalars IsReadable v) :
    FailsOnly Failure.IsError (readResponse source v) := by
  unfold readResponse
  split
  · split
    · exact .ok _
    · exact failsOnly_refuseKeys_unknown _ _ readable.2
  · exact failsOnly_refuse _

/-- The response that a template may describe is read or refused. -/
theorem failsOnly_readOptional {given : Option Value}
    (readable : ∀ v, given = some v → AllScalars IsReadable v) :
    FailsOnly Failure.IsError
      (given.elim (.ok none) fun v => (readResponse source v).map some) := by
  cases given with
  | none => exact .ok _
  | some v => exact (failsOnly_readResponse (readable v rfl)).map _

/-- The templates of the requests that are listed; none if there is no list. -/
def readListed (source : Option String) (listed : Value) : Outcome (List RequestTemplate) :=
  match listed with
  | .list items => readRequests source 1 items
  | v => if v.isAbsent then Except.ok [] else refuse .requestsShape source

/-- The templates of the requests that are listed are read or refused. -/
theorem failsOnly_readListed {listed : Value} (readable : AllScalars IsReadable listed) :
    FailsOnly Failure.IsError (readListed source listed) := by
  unfold readListed
  split
  · exact failsOnly_readRequests 1 readable
  · split
    · exact .ok _
    · exact failsOnly_refuse _

/-- The templates of the requests are read first, then that of the response. -/
theorem ofValue_object (source : Option String) (members : List (Key × Value)) :
    ofValue source (.object members) = (do
      let requests ← readListed source ((Fields.find? members "requests").getD .null)
      let response ← (optional members "response").elim (.ok none) fun v =>
        (readResponse source v).map some
      return { requests, response }) := by
  rw [ofValue]
  generalize (Fields.find? members "requests").getD .null = listed
  unfold readListed
  cases listed with
  | list items => cases optional members "response" <;> rfl
  | _ =>
    dsimp only
    split <;> cases optional members "response" <;> rfl

/-- A template is read or refused. -/
theorem failsOnly_ofValue {v : Value} (readable : AllScalars IsReadable v) :
    FailsOnly Failure.IsError (ofValue source v) := by
  cases v with
  | object members =>
    rw [ofValue_object]
    have listed : AllScalars IsReadable ((Fields.find? members "requests").getD .null) := by
      cases found : Fields.find? members "requests" with
      | none => exact ⟨trivial, rfl⟩
      | some v => exact allScalars_of_find? readable.2 found
    have answer (v : Value) (given : optional members "response" = some v) :
        AllScalars IsReadable v :=
      allScalars_of_find? readable.2 (Option.eq_some_of_filter_eq_some given)
    exact (failsOnly_readListed listed).bind fun requests =>
      (failsOnly_readOptional answer).bind fun response => .ok _
  | _ => exact failsOnly_refuse _

end Stencil.BatchTemplate
