import Stencil.Proofs.Path.Values

/-!
# Definite queries

A query of single steps is a walk: every step leads from a value to at most one other, which is the
document, the value itself, one of its members, or one of its items. So the query selects what stands
where the walk ends and nothing if the walk breaks off, and reading by it gives this value or null.
Reading by any other query gives the list of all values that it selects, in the order in which it
selects them.
-/

namespace Stencil.Path

/-- The value that a single step leads to. -/
def Step.next? (document : Value) : Step → Value → Option Value
  | .root, _ => some document
  | .self, v => some v
  | .members [name], .object fields => Fields.find? fields name
  | .items [place], .list values => itemAt? values place
  | _, _ => none

/-- The value that the steps of a query lead to, one after the other. -/
def Query.walk? (document : Value) : Query → Value → Option Value
  | [], v => some v
  | step :: query, v => (step.next? document v).bind (walk? document query)

/-- What a function gives for the only item of a list. -/
theorem filterMap_singleton {α β : Type} (f : α → Option β) (a : α) :
    [a].filterMap f = (f a).toList := by
  cases found : f a <;> simp [found]

/-- A single step selects the value that it leads to. -/
theorem stepValues_of_isSingle (document : Value) {step : Step} (single : step.isSingle) (v : Value) :
    stepValues document step v = .ok (step.next? document v).toList := by
  unfold Step.isSingle at single
  split at single
  · rfl
  · rfl
  · next name =>
    cases v with
    | object members => exact congrArg Except.ok (filterMap_singleton _ name)
    | _ => rfl
  · next place =>
    cases v with
    | list items => exact congrArg Except.ok (filterMap_singleton _ place)
    | _ => rfl
  · cases single

/-- A definite query leads from at most one value to at most one. -/
theorem queryValues_of_isDefinite (document : Value) {query : Query} (definite : query.isDefinite)
    (start : Option Value) :
    queryValues document query start.toList =
      .ok (start.bind (query.walk? document)).toList := by
  induction query generalizing start with
  | nil => cases start <;> rfl
  | cons step query ih =>
    rw [Query.isDefinite_cons, Bool.and_eq_true] at definite
    obtain ⟨single, rest⟩ := definite
    cases start with
    | none => exact ih rest none
    | some v =>
      have selected : (some v).toList.mapM (stepValues document step) =
          .ok [(step.next? document v).toList] := by
        simp [stepValues_of_isSingle document single, pure, Except.pure]
      rw [queryValues, selected, Outcome.ok_bind, List.flatten_singleton, ih rest]
      rfl

/-- A definite query selects in a document what its steps lead to from there. -/
theorem select_of_isDefinite {query : Query} (definite : query.isDefinite) (document : Value) :
    select query document = .ok (query.walk? document document).toList :=
  queryValues_of_isDefinite document definite (some document)

/-- A text that spells a definite query selects at most one value, where the steps of the query lead
to, and reading gives this value or null. A text that spells any other query gives the list of all
selected values, in order; they can be selected wherever the query can be run. -/
theorem read_of_query {path : String} {query : Query}
    (spells : read? (Text.trim path.toList) = .ok (some query)) (document : Value) :
    (query.isDefinite = true →
      ∃ found, select query document = .ok found ∧ found.length ≤ 1 ∧
        found.head? = query.walk? document document ∧
          read document path = .ok (found.head?.getD .null)) ∧
    (query.isDefinite = false →
      read document path = (select query document).map .list ∧
        (Query.IsRunnable query → ∃ found, select query document = .ok found ∧
          read document path = .ok (.list found))) := by
  have reads : read document path = result query document := by simp only [read, spells]
  constructor
  · intro definite
    have selected := select_of_isDefinite definite document
    refine ⟨_, selected, ?_, ?_, ?_⟩
    · cases query.walk? document document <;> simp
    · cases query.walk? document document <;> rfl
    · rw [reads, result, selected, Outcome.ok_bind, definite]
      cases query.walk? document document <;> rfl
  · intro indefinite
    have lists : read document path = (select query document).map .list := by
      rw [reads, result, indefinite]
      cases select query document <;> rfl
    refine ⟨lists, fun runnable => ?_⟩
    obtain ⟨found, selected⟩ := runnable.exists_select document
    exact ⟨found, selected, by rw [lists, selected]; rfl⟩

/-- A member, and all members of its name. -/
theorem read_of_query_member :
    (∃ found, select [.root, .members ["b"]] (.object [(.text "b", .bool true)]) = .ok found ∧
      found.length ≤ 1 ∧ found.head? = some (.bool true) ∧
        read (.object [(.text "b", .bool true)]) " $.b" = .ok (.bool true)) ∧
    ∃ found, select [.root, .descend, .members ["b"]] (.object [(.text "b", .bool true)]) =
        .ok found ∧
      read (.object [(.text "b", .bool true)]) "$..b" = .ok (.list found) := by
  have trimmed : Text.trim " $.b".toList = "$.b".toList := by decide +kernel
  have single : read? (Text.trim " $.b".toList) = .ok (some [.root, .members ["b"]]) := by
    rw [trimmed]
    rfl
  have below : read? (Text.trim "$..b".toList) =
      .ok (some [.root, .descend, .members ["b"]]) := rfl
  have ends : Query.walk? (.object [(.text "b", .bool true)]) [.root, .members ["b"]]
      (.object [(.text "b", .bool true)]) = some (.bool true) := by
    simp [Query.walk?, Step.next?, Fields.find?, Fields.get?, Key.same_text]
  obtain ⟨found, selected, atMostOne, first, gives⟩ :=
    (read_of_query single (.object [(.text "b", .bool true)])).1 (by decide)
  have runnable : Query.IsRunnable [.root, .descend, .members ["b"]] :=
    ⟨trivial, trivial, trivial, trivial⟩
  refine ⟨⟨found, selected, atMostOne, first.trans ends, ?_⟩, ?_⟩
  · rw [gives, first, ends]
    rfl
  · exact ((read_of_query below (.object [(.text "b", .bool true)])).2 (by decide)).2 runnable

end Stencil.Path
