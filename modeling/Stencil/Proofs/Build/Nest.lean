import Stencil.Proofs.Build.Call
import Stencil.Proofs.Expression.Tree

/-!
# How deep a schema nests

The levels that a schema goes down, read off the schema alone. A span lies a level deeper than the
text that holds it, a call a level deeper than the expression, its arguments deeper still; a member
lies a level deeper than its object and an element two levels deeper than its list. A span is a
schema again, and shorter than the expression around it.
-/

namespace Stencil

namespace Expression

/-- How many levels the spans among pieces go down, given how many their bodies do. -/
def spansNest (nest : List Char → Nat) : List Piece → Nat
  | [] => 0
  | .char _ :: rest => spansNest nest rest
  | .span body :: rest => max (nest body + 1) (spansNest nest rest)

/-- The spans stay above a level exactly if the body of each does. -/
theorem spansNest_le_iff {nest : List Char → Nat} {parts : List Piece} {n : Nat} :
    spansNest nest parts ≤ n ↔ ∀ body, .span body ∈ parts → nest body < n := by
  induction parts with
  | nil => simp [spansNest]
  | cons part rest ih =>
    cases part with
    | char c => simp [spansNest, ih]
    | span first =>
      rw [spansNest, Nat.max_le, ih, Nat.succ_le_iff]
      simp

/-- The body of a span goes down less than the spans. -/
theorem nest_lt_spansNest {nest : List Char → Nat} {parts : List Piece} {body : List Char}
    (among : .span body ∈ parts) : nest body < spansNest nest parts :=
  spansNest_le_iff.mp (Nat.le_refl _) body among

/-- Only the bodies of spans count. -/
theorem spansNest_congr {nest nest' : List Char → Nat} {parts : List Piece}
    (same : ∀ body, .span body ∈ parts → nest body = nest' body) :
    spansNest nest parts = spansNest nest' parts := by
  induction parts with
  | nil => rfl
  | cons part rest ih =>
    have others := ih fun body later => same body (List.mem_cons_of_mem part later)
    cases part with
    | char c => exact others
    | span body => rw [spansNest, spansNest, others, same body List.mem_cons_self]

mutual

/-- How many levels an argument goes down, given how many the bodies of its spans do. -/
def Argument.nest (nest : List Char → Nat) : Argument → Nat
  | .path _ => 0
  | .raw text => spansNest nest (pieces text.toList)
  | .call _ arguments => Argument.nestAll nest arguments + 1
  termination_by structural argument => argument

/-- How many levels the deepest of some arguments goes down. -/
def Argument.nestAll (nest : List Char → Nat) : List Argument → Nat
  | [] => 0
  | argument :: rest => max (Argument.nest nest argument) (Argument.nestAll nest rest)
  termination_by structural arguments => arguments

end

mutual

/-- Only the bodies of spans in literals count. -/
theorem Argument.nest_congr {nest nest' : List Char → Nat} (argument : Argument)
    (same : ∀ text, .raw text ∈ argument.flatten →
      ∀ body, .span body ∈ pieces text.toList → nest body = nest' body) :
    argument.nest nest = argument.nest nest' := by
  cases argument with
  | path text => rfl
  | raw text => exact spansNest_congr (same text (by simp [flatten]))
  | call name arguments =>
    have inside := nestAll_congr arguments fun text among => same text (by simp [flatten, among])
    rw [Argument.nest, Argument.nest, inside]
  termination_by structural argument

/-- The same of several arguments. -/
theorem Argument.nestAll_congr {nest nest' : List Char → Nat} (arguments : List Argument)
    (same : ∀ text, .raw text ∈ Argument.flattenAll arguments →
      ∀ body, .span body ∈ pieces text.toList → nest body = nest' body) :
    Argument.nestAll nest arguments = Argument.nestAll nest' arguments := by
  cases arguments with
  | nil => rfl
  | cons argument rest =>
    have first := nest_congr argument fun text among => same text (by simp [flattenAll, among])
    have others := nestAll_congr rest fun text among => same text (by simp [flattenAll, among])
    rw [nestAll, nestAll, first, others]
  termination_by structural arguments

end

/-- How many levels the text after a tag goes down, given how many the bodies of its spans do. A
path goes nowhere, nor does a literal without spans or for a tag other than that of texts. -/
def bodyNest (nest : List Char → Nat) (tag : Tag) (body : List Char) : Nat :=
  match tokenize (String.ofList body) with
  | .error _ => 0
  | .ok (.path _ :: _) => 0
  | .ok (.call name :: rest) => (Argument.call name (Argument.ofTokens rest)).nest nest
  | .ok _ => if tag = .one .string then spansNest nest (pieces body) else 0

/-- How many levels an expression goes down, given how many the bodies of its spans do. What cannot
be read as an expression goes nowhere. -/
def nestOver (nest : List Char → Nat) (expression : List Char) : Nat :=
  match Builder.splitTag? expression with
  | none => 0
  | some (word, body) =>
    match Tag.ofWord? (String.ofList word) with
    | none => 0
    | some tag => bodyNest nest tag body

/-- How many levels an expression goes down. The bodies of its spans are shorter than the
expression. -/
def nest (expression : List Char) : Nat :=
  nestOver (fun body => if body.length < expression.length then nest body else 0) expression
  termination_by expression.length

/-- The text after the tag is a part of the expression. -/
theorem length_le_of_splitTag? {expression word body : List Char}
    (h : Builder.splitTag? expression = some (word, body)) : body.length ≤ expression.length := by
  unfold Builder.splitTag? at h
  dsimp only at h
  split at h
  · cases h
  · cases h
    have trimmed (text : List Char) : (Text.trimStart text).length ≤ text.length :=
      (List.dropWhile_suffix _).length_le
    calc (Text.trimStart ((Text.trimStart expression).dropWhile fun c => !Text.isBlank c)).length
        ≤ ((Text.trimStart expression).dropWhile fun c => !Text.isBlank c).length := trimmed _
      _ ≤ (Text.trimStart expression).length := (List.dropWhile_suffix _).length_le
      _ ≤ expression.length := trimmed _

/-- Only bodies that are shorter than the text count. -/
theorem bodyNest_congr {nest nest' : List Char → Nat} (tag : Tag) {body : List Char}
    (same : ∀ inner : List Char, inner.length < body.length → nest inner = nest' inner) :
    bodyNest nest tag body = bodyNest nest' tag body := by
  unfold bodyNest
  split
  · rfl
  · rfl
  · next name rest tokens =>
    obtain ⟨arguments, rfl⟩ := exists_call tokens
    rw [Argument.ofTokens_flattenAll]
    refine Argument.nest_congr _ fun text among inner span => same inner ?_
    have inside : .raw text ∈ Token.call name :: (Argument.flattenAll arguments ++ [.close]) := by
      simpa [Argument.flatten] using among
    have whole := length_le_of_tokenize tokens inside
    have part := length_lt_of_span span
    rw [String.toList_ofList] at whole
    omega
  · split
    · exact spansNest_congr fun inner span => same inner (length_lt_of_span span)
    · rfl

/-- An expression goes down as its spans do. -/
theorem nest_eq (expression : List Char) : nest expression = nestOver nest expression := by
  rw [nest]
  unfold nestOver
  split
  · rfl
  · next word body split =>
    split
    · rfl
    · refine bodyNest_congr _ fun inner shorter => if_pos ?_
      have part := length_le_of_splitTag? split
      omega

/-- An expression with a tag goes down as the text after the tag does. -/
theorem nest_of_tag {expression word body : List Char} {tag : Tag}
    (split : Builder.splitTag? expression = some (word, body))
    (tagged : Tag.ofWord? (String.ofList word) = some tag) :
    nest expression = bodyNest nest tag body := by
  rw [nest_eq, nestOver, split]
  dsimp only
  rw [tagged]

/-- A call goes down as its tree does. -/
theorem bodyNest_call {body : List Char} {name : String} {arguments : List Argument}
    (tokens : tokenize (String.ofList body) = .ok (Argument.call name arguments).flatten)
    (nest : List Char → Nat) (tag : Tag) :
    bodyNest nest tag body = (Argument.call name arguments).nest nest := by
  rw [bodyNest, tokens, Argument.flatten]
  dsimp only [List.cons_append]
  rw [Argument.ofTokens_flattenAll]

/-- A literal for a text goes down as its spans do. -/
theorem bodyNest_literal {body : List Char} {tokens : List Token}
    (tokenized : tokenize (String.ofList body) = .ok tokens)
    (noPath : ∀ path rest, tokens ≠ .path path :: rest)
    (noCall : ∀ name rest, tokens ≠ .call name :: rest) (nest : List Char → Nat) :
    bodyNest nest (.one .string) body = spansNest nest (pieces body) := by
  rw [bodyNest, tokenized]
  split
  · next failed => cases failed
  · next path rest same => exact absurd (Except.ok.inj same) (noPath path rest)
  · next name rest same => exact absurd (Except.ok.inj same) (noCall name rest)
  · rfl

end Expression

namespace Schema

mutual

/-- How many levels a compiled schema goes down. -/
def nest : Schema → Nat
  | .scalar expression => Expression.nest expression.toList
  | .object fields => innerNest 1 fields
  | .arrayOf _ element => nest element + 2
  | .list parts => innerNest 2 parts
  | .unsupported _ => 0
  termination_by structural schema => schema

/-- How many levels a schema goes down by named ones inside of it, each some levels deeper: the
members of an object, or the parts of a list. -/
def innerNest (deeper : Nat) : List (String × Schema) → Nat
  | [] => 0
  | (_, inner) :: rest => max (nest inner + deeper) (innerNest deeper rest)
  termination_by structural inner => inner

end

/-- A schema goes down by as much as each of those inside. -/
theorem nest_le_innerNest {deeper : Nat} {inside : List (String × Schema)}
    {inner : String × Schema} (among : inner ∈ inside) :
    inner.2.nest + deeper ≤ innerNest deeper inside := by
  induction inside with
  | nil => cases among
  | cons first rest ih =>
    rw [innerNest]
    rcases List.mem_cons.mp among with rfl | later
    · exact Nat.le_max_left _ _
    · exact Nat.le_trans (ih later) (Nat.le_max_right _ _)

/-- A schema stays above a level if each of those inside does. -/
theorem innerNest_lt {deeper : Nat} {inside : List (String × Schema)} {n : Nat} (above : 0 < n)
    (each : ∀ inner ∈ inside, inner.2.nest + deeper < n) : innerNest deeper inside < n := by
  induction inside with
  | nil => exact above
  | cons first rest ih =>
    rw [innerNest]
    obtain ⟨here, others⟩ := List.forall_mem_cons.mp each
    exact Nat.max_lt.mpr ⟨here, ih others⟩

mutual

/-- How many levels a schema that is still data goes down: an expression as far as its spans and
calls do, an object one level more than the deepest member but the one under the reserved key, a
list two levels more than the deepest element. -/
def nestOf : Value → Nat
  | .text s => Expression.nest s.toList
  | .object members => membersNestOf members
  | .list elements => elementsNestOf elements
  | _ => 0
  termination_by structural v => v

/-- How many levels an object goes down by its members. -/
def membersNestOf : List (Key × Value) → Nat
  | [] => 0
  | (key, v) :: rest =>
    if isPathKey key then membersNestOf rest else max (nestOf v + 1) (membersNestOf rest)
  termination_by structural members => members

/-- How many levels a list goes down by its elements. -/
def elementsNestOf : List Value → Nat
  | [] => 0
  | element :: rest => max (nestOf element + 2) (elementsNestOf rest)
  termination_by structural elements => elements

end

mutual

/-- Compiling keeps the levels. -/
theorem nest_of_compile (v : Value) {schema : Schema} (h : compile v = .ok schema) :
    schema.nest = nestOf v := by
  cases v with
  | text s =>
    cases h
    rfl
  | object members =>
    obtain ⟨fields, found, rfl⟩ := Outcome.exists_of_map_eq_ok h
    exact nest_of_compileFields members found
  | list elements =>
    obtain ⟨parts, found, rfl⟩ := Outcome.exists_of_map_eq_ok h
    exact nest_of_compileParts elements found
  | _ => cases h
  termination_by structural v

/-- The same of the members of an object. -/
theorem nest_of_compileFields (members : List (Key × Value)) {fields : List (String × Schema)}
    (h : compileFields members = .ok fields) : innerNest 1 fields = membersNestOf members := by
  cases members with
  | nil =>
    cases h
    rfl
  | cons member rest =>
    obtain ⟨key, v⟩ := member
    rw [compileFields] at h
    rw [membersNestOf]
    split at h
    · next reserved =>
      rw [if_pos reserved]
      exact nest_of_compileFields rest h
    · next other =>
      obtain ⟨name, -, h⟩ := Outcome.exists_of_bind_eq_ok h
      obtain ⟨child, found, h⟩ := Outcome.exists_of_bind_eq_ok h
      obtain ⟨others, more, h⟩ := Outcome.exists_of_bind_eq_ok h
      cases h
      rw [if_neg other, innerNest, nest_of_compile v found, nest_of_compileFields rest more]
  termination_by structural members

/-- The same of the elements of a list. -/
theorem nest_of_compileParts (elements : List Value) {parts : List (String × Schema)}
    (h : compileParts elements = .ok parts) : innerNest 2 parts = elementsNestOf elements := by
  cases elements with
  | nil =>
    cases h
    rfl
  | cons element rest =>
    cases element with
    | object members =>
      rw [compileParts] at h
      split at h
      · cases h
      · obtain ⟨fields, found, h⟩ := Outcome.exists_of_bind_eq_ok h
        obtain ⟨others, more, h⟩ := Outcome.exists_of_bind_eq_ok h
        cases h
        rw [innerNest, nest, elementsNestOf, nestOf, nest_of_compileFields members found,
          nest_of_compileParts rest more]
    | _ => cases h
  termination_by structural elements

end

end Schema

end Stencil
