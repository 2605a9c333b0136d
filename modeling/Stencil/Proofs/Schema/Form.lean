import Stencil.Proofs.Outcome
import Stencil.Proofs.Text.Blank
import Stencil.Proofs.Value.Scalars
import Stencil.Schema

/-!
# What data describes a schema

Data describes a schema if it is a text, an object of such data, or a list of objects that name a
path under the reserved key and hold such data besides. In an object that is no element of a list
the member under the reserved key is left out, whatever it holds. Compiling accepts exactly this
data, and the data can be read off the compiled schema again, without what was left out.
-/

namespace Stencil.Schema

open Outcome (FailsOnly)
open Value (AllScalars AllItems AllMembers)

/-- An element of a list names the path that it iterates over: a text with a character that is no
blank. -/
def NamesPath (element : Value) : Prop :=
  ∃ members path, element = .object members ∧ (Key.text pathKey, Value.text path) ∈ members ∧
    ∃ c ∈ path.toList, Text.isBlank c = false

/-- Data that describes a schema. -/
inductive IsSchema : Value → Prop
  /-- An expression. -/
  | text (s : String) : IsSchema (.text s)
  /-- An object; what is under the reserved key does not matter. -/
  | object {members : List (Key × Value)} :
    (∀ member ∈ members, member.1 ≠ .text pathKey → IsSchema member.2) →
    IsSchema (.object members)
  /-- A list of objects, each with a path. -/
  | list {elements : List Value} : (∀ element ∈ elements, NamesPath element) →
    (∀ element ∈ elements, IsSchema element) → IsSchema (.list elements)

/-- A compiled schema in which no member is named by the reserved key, every part of a list has an
object as its element, and nothing else occurs but expressions, objects and lists. -/
inductive IsClean : Schema → Prop
  /-- An expression. -/
  | scalar (expression : String) : IsClean (.scalar expression)
  /-- An object. -/
  | object {fields : List (String × Schema)} : (∀ field ∈ fields, field.1 ≠ pathKey) →
    (∀ field ∈ fields, IsClean field.2) → IsClean (.object fields)
  /-- A list. -/
  | list {parts : List (String × Schema)} : (∀ part ∈ parts, ∃ fields, part.2 = .object fields) →
    (∀ part ∈ parts, IsClean part.2) → IsClean (.list parts)

/-- An object with a path under the reserved key. -/
def withPath? (path : String) : Value → Option Value
  | .object members => some (.object ((.text pathKey, .text path) :: members))
  | _ => none

mutual

/-- The data that a compiled schema stands for, with the path of each part under the reserved key of
its element. -/
def data? : Schema → Option Value
  | .scalar expression => some (.text expression)
  | .object fields => (membersData? fields).map .object
  | .arrayOf path element => (data? element).bind (withPath? path)
  | .list parts => (partsData? parts).map .list
  | .unsupported _ => none
  termination_by structural schema => schema

/-- The members that fields stand for. -/
def membersData? : List (String × Schema) → Option (List (Key × Value))
  | [] => some []
  | (name, child) :: rest => do
    let v ← data? child
    return (.text name, v) :: (← membersData? rest)
  termination_by structural fields => fields

/-- The elements that the parts of a list stand for. -/
def partsData? : List (String × Schema) → Option (List Value)
  | [] => some []
  | (path, element) :: rest => do
    let v ← withPath? path (← data? element)
    return v :: (← partsData? rest)
  termination_by structural parts => parts

end

mutual

/-- Data without the reserved key in its objects, except that the elements of lists keep it, as
their first member. -/
def stripped : Value → Value
  | .object members => .object (strippedMembers members)
  | .list elements => .list (strippedElements elements)
  | v => v
  termination_by structural v => v

/-- Members without the one under the reserved key. -/
def strippedMembers : List (Key × Value) → List (Key × Value)
  | [] => []
  | (key, v) :: rest =>
    if isPathKey key then strippedMembers rest else (key, stripped v) :: strippedMembers rest
  termination_by structural members => members

/-- Elements with the member under the reserved key in front of the others. -/
def strippedElements : List Value → List Value
  | [] => []
  | .object members :: rest =>
    .object (members.filter (fun member => isPathKey member.1) ++ strippedMembers members) ::
      strippedElements rest
  | v :: rest => stripped v :: strippedElements rest
  termination_by structural elements => elements

end

/-- A text is the reserved key or not. -/
theorem isPathKey_text (name : String) : isPathKey (.text name) = decide (name = pathKey) :=
  Key.same_text name pathKey

/-- Among members with different texts as keys, the path is the text under the reserved key, if one
of its characters is no blank. -/
theorem elementPath?_eq_some_iff {members : List (Key × Value)} {path : String}
    (distinct : Fields.AreDistinct members) (texts : Fields.HasTextKeys members) :
    elementPath? members = some path ↔ (Key.text pathKey, Value.text path) ∈ members ∧
      ∃ c ∈ path.toList, Text.isBlank c = false := by
  rw [← Text.trim_ne_nil_iff, ← Fields.find?_eq_some_iff distinct texts]
  unfold elementPath?
  split
  · next found =>
    rw [found]
    split
    · next blank =>
      rw [List.isEmpty_iff] at blank
      refine ⟨nofun, ?_⟩
      rintro ⟨same, visible⟩
      cases same
      exact absurd blank visible
    · next visible =>
      rw [List.isEmpty_iff] at visible
      refine ⟨?_, ?_⟩
      · rintro ⟨⟩
        exact ⟨rfl, visible⟩
      · rintro ⟨same, -⟩
        cases same
        rfl
  · next other => exact ⟨nofun, fun ⟨found, _⟩ => (other path found).elim⟩

/-- Among members with different texts as keys, the one that is found under the reserved key is the
only one there. -/
theorem filter_isPathKey {members : List (Key × Value)} {v : Value}
    (distinct : Fields.AreDistinct members) (texts : Fields.HasTextKeys members)
    (among : (Key.text pathKey, v) ∈ members) :
    members.filter (fun member => isPathKey member.1) = [(.text pathKey, v)] := by
  induction members with
  | nil => cases among
  | cons member rest ih =>
    obtain ⟨name, first, rfl, others⟩ := texts.exists_cons
    obtain ⟨new, distinct⟩ := List.pairwise_cons.mp distinct
    by_cases reserved : name = pathKey
    · subst reserved
      have elsewhere : ∀ other ∈ rest, ¬isPathKey other.1 := by
        intro other later same
        have differs := new other.1 (List.mem_map.mpr ⟨_, later, rfl⟩)
        obtain ⟨name, otherKey⟩ := others other later
        rw [otherKey, Key.same_text, decide_eq_false_iff_not] at differs
        rw [otherKey, isPathKey_text, decide_eq_true_eq] at same
        exact differs same.symm
      have here : v = first := by
        rcases List.mem_cons.mp among with same | later
        · exact (Prod.mk.inj same).2
        · exact absurd (isPathKey_text pathKey ▸ decide_eq_true rfl) (elsewhere _ later)
      rw [List.filter_cons_of_pos (by simp [isPathKey_text]), List.filter_eq_nil_iff.mpr elsewhere,
        here]
    · have later : (Key.text pathKey, v) ∈ rest := by
        refine (List.mem_cons.mp among).resolve_left fun same => ?_
        cases same
        exact reserved rfl
      rw [List.filter_cons_of_neg (by simp [isPathKey_text, reserved]), ih distinct others later]

/-- What is compiled from an element of a list and the others: its path, its members, and the parts
of the others. -/
theorem exists_of_compileParts {members : List (Key × Value)} {rest : List Value}
    {parts : List (String × Schema)} (h : compileParts (.object members :: rest) = .ok parts) :
    ∃ path fields others, elementPath? members = some path ∧ compileFields members = .ok fields ∧
      compileParts rest = .ok others ∧ parts = (path, .object fields) :: others := by
  rw [compileParts] at h
  split at h
  · cases h
  · next path named =>
    obtain ⟨fields, found, h⟩ := Outcome.exists_of_bind_eq_ok h
    obtain ⟨others, more, h⟩ := Outcome.exists_of_bind_eq_ok h
    cases h
    exact ⟨path, fields, others, named, found, more, rfl⟩

/-- A problem with a schema. -/
def IsProblem (failure : Failure) : Prop := ∃ problem, failure = .error (.schema problem)

/-- A problem that data has if it describes no schema. -/
inductive IsRefused : Failure → Prop
  /-- Data of a kind that is no schema. -/
  | node (kind : String) : IsRefused (.error (.schema (.unsupportedNode kind)))
  /-- An element of a list that is no object. -/
  | element (kind : String) : IsRefused (.error (.schema (.elementKind kind)))
  /-- An element of a list without a path. -/
  | path : IsRefused (.error (.schema .missingPath))

/-- It is a problem with a schema. -/
theorem IsRefused.isProblem {failure : Failure} (h : IsRefused failure) : IsProblem failure := by
  cases h <;> exact ⟨_, rfl⟩

/-- A member that is compiled has an integer too long to be written as its key. -/
inductive HasLongKey : Value → Prop
  /-- It is a member of the object itself. -/
  | key {members : List (Key × Value)} {key : Key} {v : Value} :
    (key, v) ∈ members → Value.keyIsLong key = true → HasLongKey (.object members)
  /-- It is inside of a member. -/
  | member {members : List (Key × Value)} {key : Key} {v : Value} :
    (key, v) ∈ members → isPathKey key = false → HasLongKey v → HasLongKey (.object members)
  /-- It is inside of an element of a list. -/
  | element {elements : List Value} {element : Value} :
    element ∈ elements → HasLongKey element → HasLongKey (.list elements)

/-- A failure of compiling: the data is refused, or one of its keys cannot be written. -/
inductive FailsToCompile (v : Value) : Failure → Prop
  /-- The data is refused. -/
  | refused {failure : Failure} : IsRefused failure → FailsToCompile v failure
  /-- A key is too long. -/
  | key : HasLongKey v → FailsToCompile v (.defect .value)

/-- What fails inside of data fails in the data around it, which has the keys of the data inside. -/
theorem FailsToCompile.mono {v w : Value} (keys : HasLongKey v → HasLongKey w) (failure : Failure)
    (h : FailsToCompile v failure) : FailsToCompile w failure := by
  cases h with
  | refused refused => exact .refused refused
  | key long => exact .key (keys long)

/-- Members with other ones in front of them have the keys of all. -/
theorem HasLongKey.cons (member : Key × Value) {rest : List (Key × Value)}
    (h : HasLongKey (.object rest)) : HasLongKey (.object (member :: rest)) := by
  cases h with
  | key among long => exact .key (List.mem_cons_of_mem member among) long
  | member among kept inside => exact .member (List.mem_cons_of_mem member among) kept inside

/-- The name of a member is its key, unless it is too long. -/
theorem failsOnly_plainText {members : List (Key × Value)} {key : Key} {v : Value}
    (among : (key, v) ∈ members) :
    FailsOnly (FailsToCompile (.object members)) key.plainText := by
  unfold Key.plainText
  split
  · next long => exact .error (.key (.key among long))
  · exact .ok _

mutual

/-- Data that is no schema is refused as such, unless a key is too long. -/
theorem failsOnly_compile (v : Value) : FailsOnly (FailsToCompile v) (compile v) := by
  cases v with
  | text s => exact .ok _
  | object members => exact (failsOnly_compileFields members).map _
  | list elements => exact (failsOnly_compileParts elements).map _
  | _ => exact .error (.refused (.node _))
  termination_by structural v

/-- The same of the members of an object. -/
theorem failsOnly_compileFields (members : List (Key × Value)) :
    FailsOnly (FailsToCompile (.object members)) (compileFields members) := by
  cases members with
  | nil => exact .ok _
  | cons member rest =>
    obtain ⟨key, v⟩ := member
    have others := (failsOnly_compileFields rest).mono (FailsToCompile.mono (.cons (key, v)))
    rw [compileFields]
    split
    · exact others
    · next kept =>
      have inside : HasLongKey v → HasLongKey (.object ((key, v) :: rest)) :=
        .member List.mem_cons_self (Bool.eq_false_iff.mpr kept)
      have child := (failsOnly_compile v).mono (FailsToCompile.mono inside)
      exact (failsOnly_plainText List.mem_cons_self).bind fun name =>
        child.bind fun schema => others.bind fun fields => .ok _
  termination_by structural members

/-- The same of the elements of a list. -/
theorem failsOnly_compileParts (elements : List Value) :
    FailsOnly (FailsToCompile (.list elements)) (compileParts elements) := by
  cases elements with
  | nil => exact .ok _
  | cons element rest =>
    cases element with
    | object members =>
      have here : HasLongKey (.object members) → HasLongKey (.list (.object members :: rest)) :=
        .element List.mem_cons_self
      have later : HasLongKey (.list rest) → HasLongKey (.list (.object members :: rest)) := by
        rintro (_ | _ | ⟨among, long⟩)
        exact .element (List.mem_cons_of_mem _ among) long
      rw [compileParts]
      split
      · exact .error (.refused .path)
      · exact ((failsOnly_compileFields members).mono (FailsToCompile.mono here)).bind fun fields =>
          ((failsOnly_compileParts rest).mono (FailsToCompile.mono later)).bind fun parts => .ok _
    | _ => exact .error (.refused (.element _))
  termination_by structural elements

end

/-- Where all keys are texts, none is too long. -/
theorem not_hasLongKey {p : Value → Prop} {v : Value} (all : AllScalars p v) : ¬HasLongKey v := by
  intro long
  induction long with
  | key among long =>
    obtain ⟨name, rfl⟩ := (Value.allMembers_iff.mp all.2 _ among).1
    cases long
  | member among kept inside ih => exact ih (Value.allMembers_iff.mp all.2 _ among).2
  | element among inside ih => exact ih (Value.allItems_iff.mp all _ among)

/-- Where all keys are texts, data that is no schema is refused as such. -/
theorem isRefused_of_compile {p : Value → Prop} {v : Value} (all : AllScalars p v) :
    FailsOnly IsRefused (compile v) := by
  refine (failsOnly_compile v).mono fun failure fails => ?_
  cases fails with
  | refused refused => exact refused
  | key long => exact absurd long (not_hasLongKey all)

section Accepting

variable {p : Value → Prop}

/-- The keys of members are texts if their scalars are known. -/
theorem hasTextKeys {members : List (Key × Value)} (all : AllMembers p members) :
    Fields.HasTextKeys members :=
  fun member among => (Value.allMembers_iff.mp all member among).1

mutual

/-- Data that describes a schema is compiled. -/
theorem exists_compile (v : Value) (all : AllScalars p v) (isSchema : IsSchema v) :
    ∃ schema, compile v = .ok schema := by
  cases v with
  | text s => exact ⟨_, rfl⟩
  | object members =>
    cases isSchema with
    | object children =>
      obtain ⟨fields, found⟩ := exists_compileFields members all.2 children
      exact ⟨.object fields, by rw [compile, found]; rfl⟩
  | list elements =>
    cases isSchema with
    | list paths children =>
      obtain ⟨parts, found⟩ := exists_compileParts elements all paths children
      exact ⟨.list parts, by rw [compile, found]; rfl⟩
  | _ => cases isSchema
  termination_by structural v

/-- The same of the members of an object. -/
theorem exists_compileFields (members : List (Key × Value)) (all : AllMembers p members)
    (children : ∀ member ∈ members, member.1 ≠ .text pathKey → IsSchema member.2) :
    ∃ fields, compileFields members = .ok fields := by
  cases members with
  | nil => exact ⟨[], rfl⟩
  | cons member rest =>
    obtain ⟨key, v⟩ := member
    obtain ⟨⟨name, rfl⟩, here, others⟩ := all
    obtain ⟨first, later⟩ := List.forall_mem_cons.mp children
    obtain ⟨fields, more⟩ := exists_compileFields rest others later
    rw [compileFields, isPathKey_text]
    by_cases reserved : name = pathKey
    · exact ⟨fields, by rw [decide_eq_true reserved, if_pos rfl, more]⟩
    · have other : Key.text name ≠ .text pathKey := fun same => reserved (Key.text.inj same)
      obtain ⟨child, found⟩ := exists_compile v here (first other)
      refine ⟨(name, child) :: fields, ?_⟩
      rw [decide_eq_false reserved, Key.plainText_text, found, more]
      rfl
  termination_by structural members

/-- The same of the elements of a list. -/
theorem exists_compileParts (elements : List Value) (all : AllItems p elements)
    (paths : ∀ element ∈ elements, NamesPath element)
    (children : ∀ element ∈ elements, IsSchema element) :
    ∃ parts, compileParts elements = .ok parts := by
  cases elements with
  | nil => exact ⟨[], rfl⟩
  | cons element rest =>
    obtain ⟨named, otherPaths⟩ := List.forall_mem_cons.mp paths
    obtain ⟨isSchema, otherChildren⟩ := List.forall_mem_cons.mp children
    cases element with
    | object members =>
      obtain ⟨⟨distinct, here⟩, others⟩ := all
      obtain ⟨_, path, ⟨⟩, inside, visible⟩ := named
      have found := (elementPath?_eq_some_iff distinct (hasTextKeys here)).mpr ⟨inside, visible⟩
      cases isSchema with
      | object inner =>
        obtain ⟨fields, first⟩ := exists_compileFields members here inner
        obtain ⟨parts, more⟩ := exists_compileParts rest others otherPaths otherChildren
        refine ⟨(path, .object fields) :: parts, ?_⟩
        simp only [compileParts, found, first, more]
        rfl
    | _ => obtain ⟨_, _, ⟨⟩, -⟩ := named
  termination_by structural elements

end

/-- What a compiled schema tells of the data that it was compiled from. -/
structure Describes (v : Value) (schema : Schema) : Prop where
  /-- The data describes a schema. -/
  isSchema : IsSchema v
  /-- The data can be read off the schema, but for what was left out. -/
  data : schema.data? = some (stripped v)
  /-- The schema is clean. -/
  isClean : schema.IsClean

mutual

/-- Only data that describes a schema is compiled, to a schema that it can be read off. -/
theorem describes_of_compile (v : Value) (all : AllScalars p v) {schema : Schema}
    (h : compile v = .ok schema) : Describes v schema := by
  cases v with
  | text s =>
    cases h
    exact ⟨.text s, rfl, .scalar s⟩
  | object members =>
    obtain ⟨fields, found, rfl⟩ := Outcome.exists_of_map_eq_ok h
    obtain ⟨children, data, names, clean⟩ := describes_of_compileFields members all.2 found
    exact ⟨.object children, by rw [data?, data]; rfl, .object names clean⟩
  | list elements =>
    obtain ⟨parts, found, rfl⟩ := Outcome.exists_of_map_eq_ok h
    obtain ⟨paths, children, data, objects, clean⟩ := describes_of_compileParts elements all found
    exact ⟨.list paths children, by rw [data?, data]; rfl, .list objects clean⟩
  | _ => cases h
  termination_by structural v

/-- The same of the members of an object. -/
theorem describes_of_compileFields (members : List (Key × Value)) (all : AllMembers p members)
    {fields : List (String × Schema)} (h : compileFields members = .ok fields) :
    (∀ member ∈ members, member.1 ≠ .text pathKey → IsSchema member.2) ∧
    membersData? fields = some (strippedMembers members) ∧
    (∀ field ∈ fields, field.1 ≠ pathKey) ∧ ∀ field ∈ fields, field.2.IsClean := by
  cases members with
  | nil =>
    cases h
    exact ⟨nofun, rfl, nofun, nofun⟩
  | cons member rest =>
    obtain ⟨key, v⟩ := member
    obtain ⟨⟨name, rfl⟩, here, others⟩ := all
    rw [compileFields] at h
    rw [strippedMembers]
    split at h
    · next reserved =>
      obtain ⟨children, data, names, clean⟩ := describes_of_compileFields rest others h
      rw [if_pos reserved]
      rw [isPathKey_text, decide_eq_true_eq] at reserved
      refine ⟨List.forall_mem_cons.mpr ⟨fun other => ?_, children⟩, data, names, clean⟩
      exact absurd (congrArg Key.text reserved) other
    · next other =>
      rw [Key.plainText_text, Outcome.ok_bind] at h
      obtain ⟨child, found, h⟩ := Outcome.exists_of_bind_eq_ok h
      obtain ⟨fields, more, h⟩ := Outcome.exists_of_bind_eq_ok h
      cases h
      have first := describes_of_compile v here found
      obtain ⟨children, data, names, clean⟩ := describes_of_compileFields rest others more
      rw [if_neg other, membersData?, first.data, data]
      rw [isPathKey_text, decide_eq_true_eq] at other
      exact ⟨List.forall_mem_cons.mpr ⟨fun _ => first.isSchema, children⟩, rfl,
        List.forall_mem_cons.mpr ⟨other, names⟩, List.forall_mem_cons.mpr ⟨first.isClean, clean⟩⟩
  termination_by structural members

/-- The same of the elements of a list. -/
theorem describes_of_compileParts (elements : List Value) (all : AllItems p elements)
    {parts : List (String × Schema)} (h : compileParts elements = .ok parts) :
    (∀ element ∈ elements, NamesPath element) ∧ (∀ element ∈ elements, IsSchema element) ∧
    partsData? parts = some (strippedElements elements) ∧
    (∀ part ∈ parts, ∃ fields, part.2 = .object fields) ∧ ∀ part ∈ parts, part.2.IsClean := by
  cases elements with
  | nil =>
    cases h
    exact ⟨nofun, nofun, rfl, nofun, nofun⟩
  | cons element rest =>
    cases element with
    | object members =>
      obtain ⟨⟨distinct, here⟩, others⟩ := all
      rw [compileParts] at h
      split at h
      · cases h
      · next path named =>
        obtain ⟨fields, found, h⟩ := Outcome.exists_of_bind_eq_ok h
        obtain ⟨parts, more, h⟩ := Outcome.exists_of_bind_eq_ok h
        cases h
        have texts := hasTextKeys here
        obtain ⟨inside, visible⟩ := (elementPath?_eq_some_iff distinct texts).mp named
        obtain ⟨inner, innerData, names, innerClean⟩ :=
          describes_of_compileFields members here found
        obtain ⟨paths, children, data, objects, clean⟩ :=
          describes_of_compileParts rest others more
        refine ⟨List.forall_mem_cons.mpr ⟨⟨members, path, rfl, inside, visible⟩, paths⟩,
          List.forall_mem_cons.mpr ⟨.object inner, children⟩, ?_,
          List.forall_mem_cons.mpr ⟨⟨fields, rfl⟩, objects⟩,
          List.forall_mem_cons.mpr ⟨.object names innerClean, clean⟩⟩
        rw [partsData?, data?, innerData, data, strippedElements,
          filter_isPathKey distinct texts inside]
        rfl
    | _ => cases h
  termination_by structural elements

end

end Accepting

end Stencil.Schema
