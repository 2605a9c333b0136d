import Stencil.Proofs.Expression.Writing

/-!
# Argument lists as partitions

Splitting cuts a text at its separators and loses nothing else: the arguments are parts of the text
in order, and what stands before, between and after them are separators only.

Each argument is whole by itself. A scan that begins with an argument stands where the scan of the
text stands when it comes there, outside of everything and after no word, so it meets the quotes and
brackets of the argument in the same way, and no separator outside of them.
-/

namespace Stencil.Expression

/-- A text is cut into arguments, with separators around them. -/
inductive Partitions : List (List Char) → List Char → Prop
  /-- A text without arguments consists of separators. -/
  | gap {gap : List Char} : IsGap gap → Partitions [] gap
  /-- The first argument goes from behind the separators before it up to a separator or the end. -/
  | argument {gap argument more : List Char} {rest : List (List Char)} : IsGap gap →
      argument ≠ [] → AtBoundary more → Partitions rest more →
        Partitions (argument :: rest) (gap ++ (argument ++ more))

/-- A separator in front of a text belongs to no argument. -/
theorem Partitions.separator {c : Char} (separates : isSeparator c) {arguments : List (List Char)}
    {text : List Char} (partitions : Partitions arguments text) :
    Partitions arguments (c :: text) := by
  cases partitions with
  | gap isGap => exact .gap (isGap.cons separates)
  | argument isGap nonempty boundary rest =>
    exact .argument (isGap.cons separates) nonempty boundary rest

/-- The first piece goes up to a separator or the end, and the other pieces that are not empty cut
what follows it into arguments. -/
theorem Splits.partitions {place : Place} {text first : List Char} {rest : List (List Char)}
    (splits : Splits place text (first :: rest)) :
    ∃ more, text = first ++ more ∧ AtBoundary more ∧
      Partitions (rest.filter fun piece => !piece.isEmpty) more := by
  generalize whole : first :: rest = pieces at splits
  induction splits generalizing first rest with
  | done =>
    cases whole
    exact ⟨[], rfl, nofun, .gap isGap_nil⟩
  | @separator c text _ _ separates later ih =>
    obtain ⟨next, others, rfl⟩ := List.exists_cons_of_ne_nil later.ne_nil
    cases whole
    obtain ⟨more, rfl, boundary, partitions⟩ := ih rfl
    have starts : AtBoundary (c :: (next ++ more)) := by
      rintro d ⟨⟩
      exact separates
    refine ⟨c :: (next ++ more), rfl, starts, ?_⟩
    cases next with
    | nil => exact partitions.separator separates
    | cons d next =>
      have isGap : IsGap [c] := List.forall_mem_singleton.mpr separates
      exact .argument isGap (List.cons_ne_nil d next) boundary partitions
  | @guarded _ c _ _ _ _ later ih =>
    obtain ⟨next, others, rfl⟩ := List.exists_cons_of_ne_nil later.ne_nil
    cases whole
    obtain ⟨more, rfl, others⟩ := ih rfl
    exact ⟨more, rfl, others⟩
  | @step _ _ c _ _ one within later ih =>
    obtain ⟨next, others, rfl⟩ := List.exists_cons_of_ne_nil later.ne_nil
    cases whole
    obtain ⟨more, rfl, others⟩ := ih rfl
    exact ⟨more, rfl, others⟩

/-- The arguments that splitting finds cut the text. -/
theorem partitions_of_splitPieces {text : List Char} {arguments : List (List Char)}
    (split : splitPieces text = .ok arguments) : Partitions arguments text := by
  obtain ⟨pieces, splits, rfl⟩ := exists_splits split
  obtain ⟨first, rest, rfl⟩ := List.exists_cons_of_ne_nil splits.ne_nil
  obtain ⟨more, rfl, boundary, partitions⟩ := splits.partitions
  cases first with
  | nil => exact partitions
  | cons c first => exact .argument isGap_nil (List.cons_ne_nil c first) boundary partitions

/-- A piece is split into itself alone. -/
theorem IsPiece.splitPieces_eq {argument : List Char} (isPiece : IsPiece argument) :
    splitPieces argument = .ok [argument] := by
  have atEnd : AtBoundary [] := nofun
  have nothing : splitPieces [] = .ok [] := rfl
  have split := splitPieces_piece isPiece atEnd nothing
  rwa [List.append_nil] at split

/-- A text that is cut into pieces is split into them. -/
theorem Partitions.splitPieces_eq {arguments : List (List Char)} {text : List Char}
    (partitions : Partitions arguments text) (pieces : ∀ argument ∈ arguments, IsPiece argument) :
    splitPieces text = .ok arguments := by
  induction partitions with
  | @gap gap isGap =>
    rw [← List.append_nil gap, splitPieces_gap isGap]
    rfl
  | argument isGap _ boundary _ ih =>
    obtain ⟨isPiece, others⟩ := List.forall_mem_cons.mp pieces
    rw [splitPieces_gap isGap, splitPieces_piece isPiece boundary (ih others)]

/-- A text is split into arguments exactly if they cut it at its separators and no separator stands
outside of quotes and brackets in any of them, so that each is split into itself alone. -/
theorem splitArguments_eq_ok_iff_partitions {text : List Char} {arguments : List (List Char)} :
    splitArguments text = .ok arguments ↔
      Partitions arguments text ∧
        ∀ argument ∈ arguments, IsPiece argument ∧ splitArguments argument = .ok [argument] := by
  rw [splitArguments_eq_ok_iff]
  constructor
  · intro split
    refine ⟨partitions_of_splitPieces split, fun argument among => ?_⟩
    have isPiece := isPiece_of_splitPieces split among
    exact ⟨isPiece, splitArguments_eq_ok_iff.mpr isPiece.splitPieces_eq⟩
  · rintro ⟨partitions, pieces⟩
    exact partitions.splitPieces_eq fun argument among => (pieces argument among).1

end Stencil.Expression
