import Stencil.Path.Select
import Stencil.Proofs.Outcome
import Stencil.Proofs.Value.Scalars

/-!
# What path queries find

Running a query breaks down only at a step that can be read but not run. Reading a value by a path
text fails by such a breakdown, by a number that is too long, or because the text is no query. Every
value that a query selects is made of scalars of the document, or is the size of something in it. So
whatever holds of these scalars and of every size holds of the scalars of what is found.
-/

namespace Stencil.Path

open Outcome (FailsOnly)

/-- The failure of a step that can be read but not run. -/
def IsUnsupported (failure : Failure) : Prop := failure = .defect .unsupported

/-- A failure that no message describes. -/
def IsDefect (failure : Failure) : Prop := ∃ d, failure = .defect d

mutual

/-- A step can be run: nothing in it asks for what two queries both select. -/
def Step.IsRunnable : Step → Prop
  | .union first second => Query.IsRunnable first ∧ Query.IsRunnable second
  | .intersection _ _ => False
  | .filter condition => condition.IsRunnable
  | _ => True
  termination_by structural step => step

/-- A query can be run: each of its steps can. -/
def Query.IsRunnable : List Step → Prop
  | [] => True
  | step :: query => step.IsRunnable ∧ Query.IsRunnable query
  termination_by structural query => query

/-- A condition can be decided: each of its queries can be run. -/
def Condition.IsRunnable : Condition → Prop
  | .selects query => Query.IsRunnable query
  | .lacks query => Query.IsRunnable query
  | .compare query _ _ => Query.IsRunnable query
  | .compareWith query _ other => Query.IsRunnable query ∧ Query.IsRunnable other
  | .and first second => first.IsRunnable ∧ second.IsRunnable
  | .or first second => first.IsRunnable ∧ second.IsRunnable
  termination_by structural condition => condition

end

section

variable {p : Failure → Prop} (document : Value)

mutual

/-- A step fails only where it cannot be run. -/
theorem failsOnly_stepValues (step : Step) (v : Value)
    (unrunnable : ¬step.IsRunnable → p (.defect .unsupported)) :
    FailsOnly p (stepValues document step v) := by
  cases step with
  | root | self | members | items | slice | wildcard | descend | size => exact .ok _
  | union first second =>
    have before := failsOnly_queryValues first [v] fun no => unrunnable fun both => no both.1
    have after := failsOnly_queryValues second [v] fun no => unrunnable fun both => no both.2
    exact before.bind fun found => after.bind fun more => .ok _
  | intersection => exact .error (unrunnable id)
  | filter condition =>
    exact .filterM (fun v => failsOnly_conditionHolds condition v unrunnable) (children v)
  termination_by structural step

/-- A query fails only where it cannot be run. -/
theorem failsOnly_queryValues (query : List Step) (vs : List Value)
    (unrunnable : ¬Query.IsRunnable query → p (.defect .unsupported)) :
    FailsOnly p (queryValues document query vs) := by
  cases query with
  | nil => exact .ok _
  | cons step query =>
    have first := FailsOnly.mapM
      (fun v => failsOnly_stepValues step v fun no => unrunnable fun both => no both.1) vs
    exact first.bind fun found =>
      failsOnly_queryValues query found.flatten fun no => unrunnable fun both => no both.2
  termination_by structural query

/-- A condition fails only where it cannot be decided. -/
theorem failsOnly_conditionHolds (condition : Condition) (v : Value)
    (unrunnable : ¬condition.IsRunnable → p (.defect .unsupported)) :
    FailsOnly p (conditionHolds document condition v) := by
  cases condition with
  | selects query => exact (failsOnly_queryValues query [v] unrunnable).bind fun found => .ok _
  | lacks query => exact (failsOnly_queryValues query [v] unrunnable).bind fun found => .ok _
  | compare query relation literal =>
    refine (failsOnly_queryValues query [v] unrunnable).bind fun found => ?_
    cases found <;> exact .ok _
  | compareWith query relation other =>
    have one := failsOnly_queryValues query [v] fun no => unrunnable fun both => no both.1
    have another := failsOnly_queryValues other [v] fun no => unrunnable fun both => no both.2
    refine one.bind fun found => another.bind fun others => ?_
    cases found <;> cases others <;> exact .ok _
  | and first second =>
    have one := failsOnly_conditionHolds first v fun no => unrunnable fun both => no both.1
    have another := failsOnly_conditionHolds second v fun no => unrunnable fun both => no both.2
    refine one.bind fun holds => ?_
    cases holds
    · exact .ok _
    · exact another
  | or first second =>
    have one := failsOnly_conditionHolds first v fun no => unrunnable fun both => no both.1
    have another := failsOnly_conditionHolds second v fun no => unrunnable fun both => no both.2
    refine one.bind fun holds => ?_
    cases holds
    · exact another
    · exact .ok _
  termination_by structural condition

end

/-- A query that can be run selects its values in every document. -/
theorem Query.IsRunnable.exists_select {query : Query} (runnable : Query.IsRunnable query) :
    ∃ found, select query document = .ok found := by
  have never : FailsOnly (fun _ => False) (select query document) :=
    failsOnly_queryValues document query [document] fun no => no runnable
  cases selected : select query document with
  | ok found => exact ⟨found, rfl⟩
  | error failure => exact (never failure selected).elim

end

/-- Reading fails by a number that is too long, by a step that cannot be run, or because the text is
no query. -/
theorem failsOnly_read_kinds (document : Value) (path : String) :
    FailsOnly (fun failure => failure = .defect .value ∨ IsUnsupported failure ∨
      ∃ text, failure = .error (.query text)) (read document path) := by
  unfold read
  dsimp only
  split
  · exact .error (.inl rfl)
  · next query _ =>
    have selects : FailsOnly IsUnsupported (select query document) :=
      failsOnly_queryValues document query [document] fun _ => rfl
    have gives : FailsOnly IsUnsupported (result query document) :=
      selects.bind fun found => .ok _
    exact gives.mono fun failure unsupported => .inr (.inl unsupported)
  · exact .error (.inr (.inr ⟨_, rfl⟩))

/-- Reading fails by a breakdown, or because the text is no query. -/
theorem failsOnly_read (document : Value) (path : String) :
    FailsOnly (fun failure => IsDefect failure ∨ ∃ text, failure = .error (.query text))
      (read document path) := by
  refine (failsOnly_read_kinds document path).mono fun failure kind => ?_
  rcases kind with long | unsupported | malformed
  · exact .inl ⟨_, long⟩
  · exact .inl ⟨_, unsupported⟩
  · exact .inr malformed

end Stencil.Path

namespace Stencil.Path

open Value (AllScalars AllItems AllMembers)

section

variable {p : Value → Prop} {v w : Value}

mutual

/-- What lies below a value has scalars of the value. -/
theorem allScalars_of_mem_descendants (v : Value) (all : AllScalars p v)
    (below : w ∈ descendants v) : AllScalars p w := by
  cases v with
  | list items =>
    rcases List.mem_cons.mp below with rfl | inside
    · exact all
    · exact allScalars_of_mem_itemDescendants items all inside
  | object members =>
    rcases List.mem_cons.mp below with rfl | inside
    · exact all
    · exact allScalars_of_mem_memberDescendants members all.2 inside
  | _ =>
    rw [List.mem_singleton.mp below]
    exact all
  termination_by structural v

/-- The same of items. -/
theorem allScalars_of_mem_itemDescendants (items : List Value) (all : AllItems p items)
    (below : w ∈ itemDescendants items) : AllScalars p w := by
  cases items with
  | nil => cases below
  | cons item rest =>
    rcases List.mem_append.mp below with first | later
    · exact allScalars_of_mem_descendants item all.1 first
    · exact allScalars_of_mem_itemDescendants rest all.2 later
  termination_by structural items

/-- The same of members. -/
theorem allScalars_of_mem_memberDescendants (members : List (Key × Value))
    (all : AllMembers p members) (below : w ∈ memberDescendants members) : AllScalars p w := by
  cases members with
  | nil => cases below
  | cons member rest =>
    obtain ⟨key, item⟩ := member
    rcases List.mem_append.mp below with first | later
    · exact allScalars_of_mem_descendants item all.2.1 first
    · exact allScalars_of_mem_memberDescendants rest all.2.2 later
  termination_by structural members

end

/-- The items and the members of a value have scalars of the value. -/
theorem allScalars_of_mem_children (all : AllScalars p v) (inside : w ∈ children v) :
    AllScalars p w := by
  cases v with
  | list items => exact Value.allItems_iff.mp all w inside
  | object members =>
    obtain ⟨member, among, rfl⟩ := List.mem_map.mp inside
    exact (Value.allMembers_iff.mp all.2 member among).2
  | _ => cases inside

/-- Members that are found by their names are members. -/
theorem mem_children_of_mem_membersOf {names : List String} (found : w ∈ membersOf names v) :
    w ∈ children v := by
  cases v with
  | object members =>
    obtain ⟨name, -, named⟩ := List.mem_filterMap.mp found
    obtain ⟨key, among⟩ := Fields.exists_mem_of_find? named
    exact List.mem_map.mpr ⟨_, among, rfl⟩
  | _ => cases found

/-- An item that is found at a place is an item. -/
theorem mem_of_itemAt? {items : List Value} {place : Int} (found : itemAt? items place = some w) :
    w ∈ items := by
  unfold itemAt? at found
  split at found
  · exact List.mem_of_getElem? found
  · split at found
    · cases found
    · exact List.mem_of_getElem? found

/-- Items that are found at their places are items. -/
theorem mem_children_of_mem_itemsAt {places : List Int} (found : w ∈ itemsAt places v) :
    w ∈ children v := by
  cases v with
  | list items =>
    obtain ⟨place, -, there⟩ := List.mem_filterMap.mp found
    exact mem_of_itemAt? there
  | _ => cases found

/-- Items of a slice are items. -/
theorem mem_children_of_mem_sliceOf {start stop step : Option Int}
    (found : w ∈ sliceOf start stop step v) : w ∈ children v := by
  cases v with
  | list items =>
    obtain ⟨place, -, there⟩ := List.mem_filterMap.mp found
    exact List.mem_of_getElem? there
  | _ => cases found

/-- A size is a natural number. -/
theorem exists_of_sizeOf? (found : sizeOf? v = some w) : ∃ n : Nat, w = .int n := by
  unfold sizeOf? at found
  split at found <;> cases found <;> exact ⟨_, rfl⟩

end

section

variable {p : Value → Prop} {document : Value}

mutual

/-- What a step selects at a value has scalars of the document and of the value, or is a size. -/
theorem allScalars_of_stepValues (sizes : ∀ n : Nat, p (.int n)) (all : AllScalars p document)
    (step : Step) {v : Value} (here : AllScalars p v) {found : List Value}
    (h : stepValues document step v = .ok found) :
    ∀ w ∈ found, AllScalars p w := by
  cases step with
  | root =>
    cases h
    exact List.forall_mem_singleton.mpr all
  | self =>
    cases h
    exact List.forall_mem_singleton.mpr here
  | members names =>
    cases h
    exact fun w named => allScalars_of_mem_children here (mem_children_of_mem_membersOf named)
  | items places =>
    cases h
    exact fun w placed => allScalars_of_mem_children here (mem_children_of_mem_itemsAt placed)
  | slice start stop step =>
    cases h
    exact fun w inside => allScalars_of_mem_children here (mem_children_of_mem_sliceOf inside)
  | wildcard =>
    cases h
    exact fun w inside => allScalars_of_mem_children here inside
  | descend =>
    cases h
    exact fun w below => allScalars_of_mem_descendants v here below
  | size =>
    cases h
    intro w measured
    obtain ⟨n, rfl⟩ := exists_of_sizeOf? (Option.mem_toList.mp measured)
    exact sizes n
  | union first second =>
    obtain ⟨found, selected, h⟩ := Outcome.exists_of_bind_eq_ok h
    obtain ⟨more, selected', h⟩ := Outcome.exists_of_bind_eq_ok h
    cases h
    have one := List.forall_mem_singleton.mpr here
    intro w among
    rcases List.mem_append.mp among with before | after
    · exact allScalars_of_queryValues sizes all first one selected w before
    · exact allScalars_of_queryValues sizes all second one selected' w after
  | intersection => cases h
  | filter condition =>
    exact fun w passed => allScalars_of_mem_children here (Outcome.mem_of_mem_filterM h passed)
  termination_by structural step

/-- What a query selects from values has scalars of the document and of the values, or is a size. -/
theorem allScalars_of_queryValues (sizes : ∀ n : Nat, p (.int n)) (all : AllScalars p document)
    (query : List Step) {vs found : List Value} (here : ∀ v ∈ vs, AllScalars p v)
    (h : queryValues document query vs = .ok found) :
    ∀ w ∈ found, AllScalars p w := by
  cases query with
  | nil =>
    cases h
    exact here
  | cons step query =>
    obtain ⟨parts, selected, h⟩ := Outcome.exists_of_bind_eq_ok h
    refine allScalars_of_queryValues sizes all query (fun w among => ?_) h
    obtain ⟨part, inside, there⟩ := List.mem_flatten.mp among
    obtain ⟨v, source, stepped⟩ := Outcome.exists_of_mem_mapM selected inside
    exact allScalars_of_stepValues sizes all step (here v source) stepped w there
  termination_by structural query

end

/-- What a path text finds has scalars of the document, or is null or a size. -/
theorem allScalars_of_read (null : p .null) (sizes : ∀ n : Nat, p (.int n))
    (all : AllScalars p document) {path : String} {v : Value} (h : read document path = .ok v) :
    AllScalars p v := by
  unfold read at h
  dsimp only at h
  split at h
  · cases h
  · next query _ =>
    obtain ⟨found, selected, h⟩ := Outcome.exists_of_bind_eq_ok h
    have each := allScalars_of_queryValues sizes all query (List.forall_mem_singleton.mpr all)
      selected
    cases h
    split
    · cases found with
      | nil => exact null
      | cons first rest => exact each first List.mem_cons_self
    · exact Value.allItems_iff.mpr each
  · cases h

end

end Stencil.Path
