import Stencil.Proofs.Build.Call
import Stencil.Proofs.Function.Failure
import Stencil.Proofs.Path.Values

/-!
# Values of schemas

What a schema evaluates to with the standard functions is read again once it is written, if the
document has scalars that JSON text has a form for. A document of a list part always has such
scalars, since it is read from a text.
-/

namespace Stencil.Builder

open Expression (Argument)
open Json (HasForm IsKept)
open Value (AllScalars)

section

variable {b : Builder} {levels : Nat} {evaluate : Nat → Evaluator} {evaluator : Evaluator}
variable {document v : Value}

/-- What a path finds in a document has scalars of the same kind. -/
theorem hasForm_of_read (formed : AllScalars HasForm document) {path : String}
    (h : Path.read document path = .ok v) : AllScalars HasForm v :=
  Path.allScalars_of_read trivial (fun _ => trivial) formed h

/-- A document of its own was read from a text. -/
theorem hasForm_of_detach {own : Value} (h : detach v = .ok own) : AllScalars HasForm own := by
  obtain ⟨text, -, read⟩ := Outcome.exists_of_bind_eq_ok h
  exact (Json.of_read read).1

/-- The value of a path query is read again once it is written. -/
theorem isKept_of_fromPath (formed : AllScalars HasForm document) {tag : Tag} {path : String}
    (h : fromPath tag document path = .ok v) : AllScalars IsKept v := by
  obtain ⟨found, read, h⟩ := Outcome.exists_of_bind_eq_ok h
  have each := Json.allScalars_isKept (hasForm_of_read formed read)
  split at h
  · cases h
    trivial
  · cases tag with
    | many kind => exact allScalars_isKept_of_castList each h
    | one kind =>
      dsimp only at h
      split at h
      · cases h
        trivial
      · cases h
        trivial
      · exact allScalars_isKept_of_cast each.1 h
      · exact allScalars_isKept_of_cast each h

/-- The value of a literal that is JSON is what is read. -/
theorem read_of_jsonLiteral {raw : String} (h : jsonLiteral raw = .ok v) :
    Json.read raw = .ok v := by
  unfold jsonLiteral at h
  split at h
  · cases h
  · exact h

/-- The value of a literal is read again once it is written. -/
theorem isKept_of_fromLiteral {tag : Tag} {raw : String}
    (h : fromLiteral evaluator tag document raw = .ok v) : AllScalars IsKept v := by
  cases tag with
  | many kind =>
    obtain ⟨literal, read, h⟩ := Outcome.exists_of_bind_eq_ok h
    have formed := (Json.of_read (read_of_jsonLiteral read)).1
    exact allScalars_isKept_of_castList (Json.allScalars_isKept formed) h
  | one kind =>
    cases kind with
    | string =>
      obtain ⟨text, -, rfl⟩ := Outcome.exists_of_map_eq_ok h
      trivial
    | object => exact Json.allScalars_isKept (Json.of_read (read_of_jsonLiteral h)).1
    | _ =>
      have kept : AllScalars IsKept (.text raw) := trivial
      simp only [fromLiteral] at h
      exact allScalars_isKept_of_cast kept h

/-- The value of a literal argument is read again once it is written. -/
theorem isKept_of_literalArgument {raw : String}
    (h : literalArgument evaluator document raw = .ok v) : AllScalars IsKept v := by
  unfold literalArgument at h
  dsimp only at h
  split at h
  · next number =>
    cases h
    split at number
    · obtain ⟨d, read, rfl⟩ := Option.map_eq_some_iff.mp number
      exact Decimal.isWithin_of_read? read
    · obtain ⟨n, -, rfl⟩ := Option.map_eq_some_iff.mp number
      trivial
  · split at h
    · cases h
      trivial
    · split at h
      · cases h
        trivial
      · obtain ⟨text, -, rfl⟩ := Outcome.exists_of_map_eq_ok h
        trivial

/-- The value of a call is read again once it is written, if the values of its arguments are. -/
theorem isKept_of_callValue (standard : b.functions = .standard) {below : Nat}
    {requested : Option Tag} {name : String} {arguments : Outcome (List Value)}
    (kept : ∀ vs, arguments = .ok vs → ∀ v ∈ vs, AllScalars IsKept v)
    (h : callValue b levels below requested name arguments = .ok v) : AllScalars IsKept v := by
  unfold callValue at h
  split at h
  · cases h
  · obtain ⟨f, known, h⟩ := Outcome.exists_of_bind_eq_ok h
    obtain ⟨vs, given, h⟩ := Outcome.exists_of_bind_eq_ok h
    rw [standard] at known
    exact Registry.isKept_of_invoke_standard known (kept vs given) h

mutual

/-- The value of an argument is read again once it is written. -/
theorem isKept_of_argumentValue (standard : b.functions = .standard)
    (formed : AllScalars HasForm document) (argument : Argument) (below : Nat) {v : Value}
    (h : argumentValue b levels evaluate document argument below = .ok v) :
    AllScalars IsKept v := by
  cases argument with
  | path path => exact Json.allScalars_isKept (hasForm_of_read formed h)
  | raw raw => exact isKept_of_literalArgument h
  | call name arguments =>
    exact isKept_of_callValue standard
      (fun vs => isKept_of_argumentValues standard formed arguments (below + 1)) h
  termination_by structural argument

/-- The values of arguments are read again once they are written. -/
theorem isKept_of_argumentValues (standard : b.functions = .standard)
    (formed : AllScalars HasForm document) (arguments : List Argument) (below : Nat)
    {vs : List Value} (h : argumentValues b levels evaluate document arguments below = .ok vs) :
    ∀ v ∈ vs, AllScalars IsKept v := by
  cases arguments with
  | nil =>
    cases h
    exact nofun
  | cons argument arguments =>
    obtain ⟨first, found, h⟩ := Outcome.exists_of_bind_eq_ok h
    obtain ⟨others, rest, h⟩ := Outcome.exists_of_bind_eq_ok h
    cases h
    exact List.forall_mem_cons.mpr
      ⟨isKept_of_argumentValue standard formed argument below found,
        isKept_of_argumentValues standard formed arguments below rest⟩
  termination_by structural arguments

end

/-- The value of an expression is read again once it is written. -/
theorem isKept_of_scalarValue (standard : b.functions = .standard)
    (formed : AllScalars HasForm document) {expression : String}
    (h : scalarValue b levels evaluate expression document = .ok v) : AllScalars IsKept v := by
  unfold scalarValue at h
  split at h
  · cases h
  · split at h
    · cases h
    · split at h
      · cases h
      · exact isKept_of_fromPath formed h
      · next name rest tokenized =>
        obtain ⟨arguments, rfl⟩ := Expression.exists_call tokenized
        rw [runCall_flattenAll] at h
        obtain ⟨⟨value, left⟩, run, rfl⟩ := Outcome.exists_of_map_eq_ok h
        obtain ⟨value, called, same⟩ := Outcome.exists_of_map_eq_ok run
        cases same
        exact isKept_of_callValue standard
          (fun vs => isKept_of_argumentValues standard formed arguments 1) called
      · exact isKept_of_fromLiteral h

end

section Levels

variable {b : Builder} {levels : Nat} {document : Value}

/-- Evaluations with some number of levels give values that are read again once they are written. -/
def GivesKept (b : Builder) (levels : Nat) : Prop :=
  ∀ schema document v, AllScalars HasForm document →
    evaluateAt b levels 0 schema document = .ok v → AllScalars IsKept v

/-- The values of a list part are such values: each item is a document of its own. -/
theorem isKept_of_partValues (below : GivesKept b (levels - 1)) {element : Schema} {path : String}
    {vs : List Value} (h : partValues (evaluateAt b levels 1) document path element = .ok vs) :
    ∀ v ∈ vs, AllScalars IsKept v := by
  intro v among
  obtain ⟨items, -, h⟩ := Outcome.exists_of_bind_eq_ok h
  obtain ⟨item, -, given⟩ := Outcome.exists_of_mem_mapM h among
  obtain ⟨own, detached, given⟩ := Outcome.exists_of_bind_eq_ok given
  rw [evaluateAt_skip] at given
  exact below element own v (hasForm_of_detach detached) given

/-- A schema whose own level is allowed gives such a value. -/
theorem isKept_of_step (standard : b.functions = .standard) (formed : AllScalars HasForm document)
    (deeper : ∀ levels' ≤ levels, GivesKept b levels') {schema : Schema} {v : Value}
    (h : step b levels (evaluateAt b levels) schema document = .ok v) : AllScalars IsKept v := by
  have part {path : String} {element : Schema} {vs : List Value}
      (given : partValues (evaluateAt b levels 1) document path element = .ok vs) :
      ∀ v ∈ vs, AllScalars IsKept v :=
    isKept_of_partValues (deeper _ (Nat.sub_le _ _)) given
  cases schema with
  | scalar expression => exact isKept_of_scalarValue standard formed h
  | object fields =>
    obtain ⟨members, found, h⟩ := Outcome.exists_of_bind_eq_ok h
    cases h
    refine Value.allScalars_ofList (Value.allMembers_iff.mpr fun member among => ?_)
    obtain ⟨field, -, given⟩ := Outcome.exists_of_mem_mapM found among
    obtain ⟨child, value, same⟩ := Outcome.exists_of_bind_eq_ok given
    cases same
    exact ⟨⟨field.1, rfl⟩, deeper levels (Nat.le_refl levels) field.2 document child formed value⟩
  | arrayOf path element =>
    obtain ⟨vs, given, rfl⟩ := Outcome.exists_of_map_eq_ok h
    exact Value.allItems_iff.mpr (part given)
  | list parts =>
    obtain ⟨results, found, h⟩ := Outcome.exists_of_bind_eq_ok h
    cases h
    refine Value.allItems_iff.mpr fun item among => ?_
    obtain ⟨vs, result, inside⟩ := List.mem_flatten.mp among
    obtain ⟨listed, -, given⟩ := Outcome.exists_of_mem_mapM found result
    exact part given item inside
  | unsupported kind => cases h

/-- Whatever the number of levels, evaluations give such values. -/
theorem givesKept (standard : b.functions = .standard) (levels : Nat) : GivesKept b levels := by
  -- Arguments and items skip levels, so the hypothesis is needed for all lower ones.
  induction levels using Nat.strongRecOn with
  | ind levels ih =>
    intro schema document v formed h
    cases levels with
    | zero => cases h
    | succ levels =>
      exact isKept_of_step standard formed (fun levels' le => ih levels' (Nat.lt_succ_of_le le)) h

/-- What is built with the standard functions is read again once it is written. -/
theorem isKept_of_build (standard : b.functions = .standard) (formed : AllScalars HasForm document)
    {schema v : Value} (h : b.build schema document = .ok v) : AllScalars IsKept v := by
  obtain ⟨compiled, -, evaluated⟩ := Outcome.exists_of_bind_eq_ok h
  exact givesKept standard b.levels compiled document v formed evaluated

end Levels

end Stencil.Builder
