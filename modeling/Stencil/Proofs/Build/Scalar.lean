import Stencil.Build
import Stencil.Proofs.Outcome
import Stencil.Proofs.Text.Blank

/-!
# Building one expression

A text as a schema is an expression, and it is built at the top level if the limit allows that one.
It starts with the word of a tag, and what follows the blanks after the word is a path, a call or a
literal.
-/

namespace Stencil

/-- What holds of the characters of all tags' words holds of those of a word that names a tag, once
they are in lower case; such a word is not empty. -/
theorem Tag.forall_lower_of_ofWord? {p : Char → Bool} {word : String} {tag : Tag}
    (known : Tag.ofWord? word = some tag)
    (spelled : ∀ tag ∈ Tag.all, ∀ spelling ∈ [tag.short, tag.label],
      spelling.toList ≠ [] ∧ spelling.toList.all p = true) :
    word.toList ≠ [] ∧ ∀ c ∈ word.toList, p c.toLower = true := by
  have named : Text.lower word = tag.short ∨ Text.lower word = tag.label := by
    simpa using List.find?_some known
  have listed : tag ∈ Tag.all := by
    cases tag with
    | one kind => exact List.mem_append_left _ (List.mem_map_of_mem kind.mem_all)
    | many kind => exact List.mem_append_right _ (List.mem_map_of_mem kind.mem_all)
  obtain ⟨nonempty, all⟩ := spelled tag listed (Text.lower word) (by simpa using named)
  rw [Text.lower, String.toList_ofList] at nonempty all
  refine ⟨fun nothing => nonempty (by rw [nothing, List.map_nil]), fun c among => ?_⟩
  exact List.all_eq_true.mp all c.toLower (List.mem_map_of_mem among)

/-- A word that names a tag is not empty and holds no blank. -/
theorem Tag.isSolid_of_ofWord? {word : String} {tag : Tag} (known : Tag.ofWord? word = some tag) :
    word.toList ≠ [] ∧ ∀ c ∈ word.toList, Text.isBlank c = false := by
  obtain ⟨nonempty, visible⟩ :=
    Tag.forall_lower_of_ofWord? (p := fun c => !Text.isBlank c) known (by decide)
  refine ⟨nonempty, fun c among => ?_⟩
  -- a blank is its own lower case, so it would stand in the spelling as well
  have lowered := visible c among
  refine Bool.eq_false_iff.mpr fun blank => ?_
  have same : c.toLower = c := by
    apply Text.forall_blank (p := fun c => c.toLower = c) _ blank
    decide
  rw [same, blank] at lowered
  cases lowered

/-- A word that names a tag holds no `@`. -/
theorem Tag.at_sign_not_mem_of_ofWord? {word : String} {tag : Tag}
    (known : Tag.ofWord? word = some tag) : '@' ∉ word.toList := by
  intro among
  have lowered := (Tag.forall_lower_of_ofWord? (p := fun c => c != '@') known (by decide)).2 _ among
  exact absurd lowered (by decide)

namespace Builder

/-- An expression that starts with a word, and blanks after it, is split there. -/
theorem splitTag?_gap {word gap : List Char} (nonempty : word ≠ [])
    (solid : ∀ c ∈ word, Text.isBlank c = false) (apart : gap ≠ [])
    (blank : ∀ c ∈ gap, Text.isBlank c) (body : List Char) :
    splitTag? (word ++ gap ++ body) =
      if (Text.trimStart body).isEmpty then none else some (word, Text.trimStart body) := by
  have visible : ∀ c ∈ word, (!Text.isBlank c) = true := by
    intro c among
    rw [solid c among, Bool.not_false]
  obtain ⟨first, letters, rfl⟩ := List.exists_cons_of_ne_nil nonempty
  obtain ⟨space, more, rfl⟩ := List.exists_cons_of_ne_nil apart
  have starts : Text.isBlank first = false := solid first List.mem_cons_self
  have kept : Text.trimStart (first :: letters ++ (space :: more ++ body)) =
      first :: letters ++ (space :: more ++ body) := Text.trimStart_of_head _ starts
  have ends : ¬(!Text.isBlank space) = true := by
    rw [blank space List.mem_cons_self]
    exact Bool.false_ne_true
  have taken : (space :: more ++ body).takeWhile (fun c => !Text.isBlank c) = [] :=
    List.takeWhile_cons_of_neg ends
  have left : (space :: more ++ body).dropWhile (fun c => !Text.isBlank c) =
      space :: more ++ body := List.dropWhile_cons_of_neg ends
  rw [splitTag?, List.append_assoc, kept, List.takeWhile_append_of_pos visible,
    List.dropWhile_append_of_pos visible]
  rw [taken, left, Text.trimStart_append blank, List.append_nil]

/-- An expression that starts with the word of a tag is split after it. -/
theorem splitTag?_word {word expression : String} (known : Tag.ofWord? word = some tag) :
    splitTag? (word ++ " " ++ expression).toList =
      if (Text.trimStart expression.toList).isEmpty then none
      else some (word.toList, Text.trimStart expression.toList) := by
  obtain ⟨nonempty, solid⟩ := Tag.isSolid_of_ofWord? known
  have blank : ∀ c ∈ " ".toList, Text.isBlank c := List.forall_mem_singleton.mpr (by decide)
  rw [String.toList_append, String.toList_append]
  exact splitTag?_gap nonempty solid (by decide) blank expression.toList

variable {b : Builder} {document v : Value}

/-- The limit allows no level exactly if it is negative. -/
theorem levels_eq_zero_iff : b.levels = 0 ↔ b.maxDepth < 0 := by
  unfold levels
  omega

/-- Without any level nothing is built. -/
theorem build_of_levels_eq_zero (none : b.levels = 0) (expression : String) (document : Value) :
    b.build (.text expression) document = b.tooDeep := by
  rw [build, Schema.compile_text, Outcome.ok_bind, evaluate, none, evaluateAt]

/-- Where something is built at least one level is allowed. -/
theorem levels_ne_zero_of_build {schema : Value} (built : b.build schema document = .ok v) :
    b.levels ≠ 0 := by
  intro none
  obtain ⟨compiled, -, evaluated⟩ := Outcome.exists_of_bind_eq_ok built
  rw [evaluate, none] at evaluated
  cases evaluated

/-- An expression is evaluated at the top level. -/
theorem build_text {below : Nat} (more : b.levels = below + 1) (expression : String)
    (document : Value) : b.build (.text expression) document =
      scalarValue b below (evaluateAt b below) expression document := by
  rw [build, Schema.compile_text, Outcome.ok_bind, evaluate, more]
  rfl

/-- The value of an expression whose text after the tag is a path. -/
theorem build_path {expression path : String} {word body : List Char} {tag : Tag}
    (allowed : b.levels ≠ 0) (split : splitTag? expression.toList = some (word, body))
    (known : Tag.ofWord? (String.ofList word) = some tag)
    (tokenized : Expression.tokenize (String.ofList body) = .ok [.path path]) :
    b.build (.text expression) document = fromPath tag document path := by
  obtain ⟨below, more⟩ := Nat.exists_eq_succ_of_ne_zero allowed
  rw [build_text more, scalarValue, split]
  simp only [known, tokenized]

/-- The value of an expression for a text whose text after the tag is one literal. -/
theorem build_literal {expression : String} {word body : List Char} {below : Nat}
    (more : b.levels = below + 1) (split : splitTag? expression.toList = some (word, body))
    (known : Tag.ofWord? (String.ofList word) = some (.one .string))
    (tokenized : Expression.tokenize (String.ofList body) = .ok [.raw (String.ofList body)]) :
    b.build (.text expression) document =
      (interpolate (evaluateAt b below 0) document (String.ofList body)).map .text := by
  rw [build_text more, scalarValue, split]
  simp only [known, tokenized]
  rfl

/-- The value of an expression whose text after the tag is a call. -/
theorem build_call {expression name : String} {word body : List Char} {tag : Tag} {below : Nat}
    {rest : List Expression.Token} (more : b.levels = below + 1)
    (split : splitTag? expression.toList = some (word, body))
    (known : Tag.ofWord? (String.ofList word) = some tag)
    (tokenized : Expression.tokenize (String.ofList body) = .ok (.call name :: rest)) :
    b.build (.text expression) document =
      (runCall b below (evaluateAt b below) tag document name rest).map Prod.fst := by
  rw [build_text more, scalarValue, split]
  simp only [known, tokenized]

end Builder

end Stencil
