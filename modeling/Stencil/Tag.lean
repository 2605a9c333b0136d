import Stencil.Text.Case

/-!
# Type tags

The word at the head of an expression names the type of its result: one of five kinds, or a list of
one of these kinds. Every kind has a short and a long word, and letter case does not matter.
-/

namespace Stencil

/-- The kind of a single result. -/
inductive Kind where
  /-- Text. -/
  | string
  /-- A whole number. -/
  | integer
  /-- A decimal number. -/
  | number
  /-- A truth value. -/
  | boolean
  /-- Any value. -/
  | object
  deriving DecidableEq, Repr, Inhabited

/-- The type that an expression asks for. -/
inductive Tag where
  /-- A single result. -/
  | one (kind : Kind)
  /-- A list of results. -/
  | many (kind : Kind)
  deriving DecidableEq, Repr, Inhabited

namespace Kind

/-- All kinds. -/
def all : List Kind := [.string, .integer, .number, .boolean, .object]

/-- The long word of a kind, which messages use. -/
def label : Kind → String
  | .string => "string"
  | .integer => "integer"
  | .number => "number"
  | .boolean => "boolean"
  | .object => "object"

/-- The short word of a kind. -/
def short : Kind → String
  | .string => "str"
  | .integer => "int"
  | .number => "num"
  | .boolean => "bool"
  | .object => "obj"

/-- Every kind is listed. -/
theorem mem_all (kind : Kind) : kind ∈ all := by cases kind <;> decide

end Kind

namespace Tag

/-- All tags. -/
def all : List Tag := Kind.all.map .one ++ Kind.all.map .many

/-- The long word of a tag, which messages use. -/
def label : Tag → String
  | .one kind => kind.label
  | .many kind => kind.label ++ "[]"

/-- The short word of a tag. -/
def short : Tag → String
  | .one kind => kind.short
  | .many kind => kind.short ++ "[]"

/-- Whether the tag asks for a list. -/
def isArray : Tag → Bool
  | .one _ => false
  | .many _ => true

/-- The kind of the items of a list. -/
def element? : Tag → Option Kind
  | .one _ => none
  | .many kind => some kind

/-- The tag that a word selects. -/
def ofWord? (word : String) : Option Tag :=
  let lowered := Text.lower word
  all.find? fun tag => lowered = tag.short || lowered = tag.label

/-- Every tag is selected by both of its words. -/
theorem ofWord?_words (tag : Tag) :
    ofWord? tag.short = some tag ∧ ofWord? tag.label = some tag := by
  cases tag with
  | one kind => cases kind <;> decide
  | many kind => cases kind <;> decide

end Tag

end Stencil
