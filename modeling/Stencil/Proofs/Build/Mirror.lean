import Stencil.Proofs.Build.DepthLimit
import Stencil.Proofs.Schema.Form

/-!
# What is built mirrors its schema

An object gives an object with its own keys in their order, but for the reserved key, and a list
gives one object for each item that the paths of its parts select, part by part. The objects of a
list are built from their items alone: of the document around them only what the paths read
matters. The data of the schema decides the value in this way, so the relation between the two is
defined along the data and says nothing of levels.
-/

namespace Stencil.Builder

open Schema (compile compileFields compileParts isPathKey isPathKey_text pathKey)
open Value (AllScalars AllItems AllMembers)

/-- The items of a list part whose path reads a value: none for null, those of a list, and otherwise
the value itself. -/
def selected : Value → List Value
  | .null => []
  | .list items => items
  | v => [v]

/-- A list part goes through the items of what its path reads. -/
theorem partItems_eq (document : Value) (path : String) :
    partItems document path = (Path.read document path).map selected := by
  unfold partItems
  cases Path.read document path with
  | error e => rfl
  | ok v => cases v <;> rfl

mutual

/-- A value mirrors a schema, given as data, for a document: expressions give their values, and
objects and lists have the shape of the schema. -/
inductive Mirrors (b : Builder) : (schema document v : Value) → Prop
  /-- The value of an expression. -/
  | text {expression : String} {document v : Value} :
    b.build (.text expression) document = .ok v → Mirrors b (.text expression) document v
  /-- An object. -/
  | object {members fields : List (Key × Value)} {document : Value} :
    MirrorsMembers b members document fields →
    Mirrors b (.object members) document (.object fields)
  /-- A list. -/
  | list {elements results : List Value} {document : Value} :
    MirrorsElements b elements document results →
    Mirrors b (.list elements) document (.list results)

/-- Members mirror those of a schema one by one; there is none for the reserved key. -/
inductive MirrorsMembers (b : Builder) :
    (members : List (Key × Value)) → (document : Value) → (fields : List (Key × Value)) → Prop
  /-- No members. -/
  | nil {document : Value} : MirrorsMembers b [] document []
  /-- Whatever is under the reserved key is left out. -/
  | reserved {child document : Value} {rest fields : List (Key × Value)} :
    MirrorsMembers b rest document fields →
    MirrorsMembers b ((.text pathKey, child) :: rest) document fields
  /-- A member with the same name. -/
  | cons {name : String} {child document v : Value} {rest fields : List (Key × Value)} :
    name ≠ pathKey → Mirrors b child document v → MirrorsMembers b rest document fields →
    MirrorsMembers b ((.text name, child) :: rest) document ((.text name, v) :: fields)

/-- The results of the elements of a list follow one another. The path of an element selects its
items in the document. -/
inductive MirrorsElements (b : Builder) :
    (elements : List Value) → (document : Value) → (results : List Value) → Prop
  /-- No elements. -/
  | nil {document : Value} : MirrorsElements b [] document []
  /-- An element before the others. -/
  | cons {members : List (Key × Value)} {path : String} {document selection : Value}
    {rest here others : List Value} : (Key.text pathKey, .text path) ∈ members →
    Path.read document path = .ok selection → MirrorsItems b members (selected selection) here →
    MirrorsElements b rest document others →
    MirrorsElements b (.object members :: rest) document (here ++ others)

/-- One object for each item, from a document of the item's own. -/
inductive MirrorsItems (b : Builder) :
    (members : List (Key × Value)) → (items results : List Value) → Prop
  /-- No items. -/
  | nil {members : List (Key × Value)} : MirrorsItems b members [] []
  /-- An item before the others. -/
  | cons {members fields : List (Key × Value)} {item own : Value} {items results : List Value} :
    detach item = .ok own → MirrorsMembers b members own fields →
    MirrorsItems b members items results →
    MirrorsItems b members (item :: items) (.object fields :: results)

end

variable {b : Builder} {document : Value}

/-- The keys of an object are those of its schema in their order, without the reserved key. -/
theorem MirrorsMembers.keys {members fields : List (Key × Value)}
    (h : MirrorsMembers b members document fields) :
    fields.map Prod.fst = (members.map Prod.fst).filter fun key => !isPathKey key := by
  induction members generalizing fields with
  | nil =>
    cases h
    rfl
  | cons member rest ih =>
    cases h with
    | reserved others =>
      rw [ih others, List.map_cons, List.filter_cons_of_neg (by simp [isPathKey_text])]
    | cons other _ others =>
      rw [List.map_cons, ih others, List.map_cons,
        List.filter_cons_of_pos (by simp [isPathKey_text, other])]

/-- The keys of an object are different if those of its schema are. -/
theorem MirrorsMembers.areDistinct {members fields : List (Key × Value)}
    (h : MirrorsMembers b members document fields) (distinct : Fields.AreDistinct members) :
    Fields.AreDistinct fields := by
  unfold Fields.AreDistinct
  rw [h.keys]
  exact List.Pairwise.sublist List.filter_sublist distinct

section Built

variable {levels skip : Nat}

/-- What an expression gives some levels down is what it gives at the top. -/
theorem build_of_evaluateAt {expression : String} {v : Value} (le : levels ≤ b.levels)
    (h : evaluateAt b levels skip (.scalar expression) document = .ok v) :
    b.build (.text expression) document = .ok v := by
  rw [evaluateAt_skip] at h
  have fewer : levels - skip ≤ b.levels := Nat.le_trans (Nat.sub_le levels skip) le
  rcases evaluateAt_cutOff (b := b) rfl fewer 0 (.scalar expression) document with cut | same
  · rw [h] at cut
    cases cut
  · exact same.symm.trans h

/-- An object is built from members that mirror those of its schema. -/
theorem exists_of_objectValue {evaluate : Evaluator} {members : List (Key × Value)}
    {fields : List (String × Schema)} {v : Value} (distinct : Fields.AreDistinct members)
    (each : ∀ built, (fields.mapM fun (name, child) => do
      return (Key.text name, ← evaluate child document)) = .ok built →
        MirrorsMembers b members document built)
    (h : objectValue evaluate document fields = .ok v) :
    ∃ built, v = .object built ∧ MirrorsMembers b members document built := by
  obtain ⟨built, found, h⟩ := Outcome.exists_of_bind_eq_ok h
  cases h
  have mirrors := each built found
  refine ⟨built, ?_, mirrors⟩
  rw [Fields.ofList_of_areDistinct (mirrors.areDistinct distinct)]

/-- The objects of a list part are built one after another. -/
theorem mirrorsItems_of_mapM {evaluate : Evaluator} {element : Schema}
    {members : List (Key × Value)} {items results : List Value}
    (each : ∀ own v, evaluate element own = .ok v →
      ∃ built, v = .object built ∧ MirrorsMembers b members own built)
    (h : (items.mapM fun item => do evaluate element (← detach item)) = .ok results) :
    MirrorsItems b members items results := by
  induction items generalizing results with
  | nil =>
    cases h
    exact .nil
  | cons item items ih =>
    rw [List.mapM_cons] at h
    obtain ⟨v, first, h⟩ := Outcome.exists_of_bind_eq_ok h
    obtain ⟨others, later, h⟩ := Outcome.exists_of_bind_eq_ok h
    cases h
    obtain ⟨own, detached, built⟩ := Outcome.exists_of_bind_eq_ok first
    obtain ⟨fields, rfl, mirrors⟩ := each own v built
    exact .cons detached mirrors (ih later)

/-- The next level down of a schema that has a value. -/
theorem exists_step_of_evaluateAt {schema : Schema} {v : Value}
    (h : evaluateAt b levels skip schema document = .ok v) :
    ∃ below < levels, step b below (evaluateAt b below) schema document = .ok v := by
  rw [evaluateAt_skip] at h
  cases enough : levels - skip with
  | zero =>
    rw [enough] at h
    cases h
  | succ below =>
    rw [enough] at h
    exact ⟨below, by omega, h⟩

end Built

section Data

variable {p : Value → Prop} {b : Builder}

-- The recursion is on the data and not on the levels. Of the levels it is enough to know that they
-- are no more than the limit allows: an expression that has a value has the same at the top.
mutual

/-- What is built from data mirrors the data, however many levels down. -/
theorem mirrors_of_evaluateAt (data : Value) (all : AllScalars p data) {schema : Schema}
    (compiled : compile data = .ok schema) {levels skip : Nat} (le : levels ≤ b.levels)
    {document v : Value}
    (h : evaluateAt b levels skip schema document = .ok v) : Mirrors b data document v := by
  cases data with
  | text expression =>
    cases compiled
    exact .text (build_of_evaluateAt le h)
  | object members =>
    obtain ⟨fields, found, rfl⟩ := Outcome.exists_of_map_eq_ok compiled
    obtain ⟨below, less, h⟩ := exists_step_of_evaluateAt h
    obtain ⟨built, rfl, mirrors⟩ := exists_of_objectValue all.1
      (fun built => mirrorsMembers_of_mapM members all.2 found (by omega)) h
    exact .object mirrors
  | list elements =>
    obtain ⟨parts, found, rfl⟩ := Outcome.exists_of_map_eq_ok compiled
    obtain ⟨below, less, h⟩ := exists_step_of_evaluateAt h
    obtain ⟨results, built, h⟩ := Outcome.exists_of_bind_eq_ok h
    cases h
    exact .list (mirrorsElements_of_mapM elements all found (by omega) built)
  | _ => cases compiled
  termination_by structural data

/-- The same of the members of an object. -/
theorem mirrorsMembers_of_mapM (members : List (Key × Value)) (all : AllMembers p members)
    {fields : List (String × Schema)} (compiled : compileFields members = .ok fields)
    {levels skip : Nat} (le : levels ≤ b.levels) {document : Value} {built : List (Key × Value)}
    (h : (fields.mapM fun (name, child) => do
      return (Key.text name, ← evaluateAt b levels skip child document)) = .ok built) :
    MirrorsMembers b members document built := by
  cases members with
  | nil =>
    cases compiled
    cases h
    exact .nil
  | cons member rest =>
    obtain ⟨key, data⟩ := member
    obtain ⟨⟨name, rfl⟩, here, others⟩ := all
    rw [compileFields, isPathKey_text] at compiled
    by_cases reserved : name = pathKey
    · rw [decide_eq_true reserved, if_pos rfl] at compiled
      subst reserved
      exact .reserved (mirrorsMembers_of_mapM rest others compiled le h)
    · rw [decide_eq_false reserved, if_neg Bool.false_ne_true, Key.plainText_text,
        Outcome.ok_bind] at compiled
      obtain ⟨child, found, compiled⟩ := Outcome.exists_of_bind_eq_ok compiled
      obtain ⟨fields, more, compiled⟩ := Outcome.exists_of_bind_eq_ok compiled
      cases compiled
      rw [List.mapM_cons] at h
      obtain ⟨field, first, h⟩ := Outcome.exists_of_bind_eq_ok h
      obtain ⟨later, otherFields, h⟩ := Outcome.exists_of_bind_eq_ok h
      cases h
      obtain ⟨v, value, first⟩ := Outcome.exists_of_bind_eq_ok first
      cases first
      exact .cons reserved (mirrors_of_evaluateAt data here found le value)
        (mirrorsMembers_of_mapM rest others more le otherFields)
  termination_by structural members

/-- The same of the elements of a list. -/
theorem mirrorsElements_of_mapM (elements : List Value) (all : AllItems p elements)
    {parts : List (String × Schema)} (compiled : compileParts elements = .ok parts)
    {levels skip : Nat} (le : levels ≤ b.levels) {document : Value} {results : List (List Value)}
    (h : (parts.mapM fun (path, element) =>
      partValues (evaluateAt b levels skip) document path element) = .ok results) :
    MirrorsElements b elements document results.flatten := by
  cases elements with
  | nil =>
    cases compiled
    cases h
    exact .nil
  | cons element rest =>
    cases element with
    | object members =>
      obtain ⟨⟨distinct, here⟩, others⟩ := all
      obtain ⟨path, fields, parts, named, found, more, rfl⟩ :=
        Schema.exists_of_compileParts compiled
      rw [List.mapM_cons] at h
      obtain ⟨first, part, h⟩ := Outcome.exists_of_bind_eq_ok h
      obtain ⟨later, otherParts, h⟩ := Outcome.exists_of_bind_eq_ok h
      cases h
      obtain ⟨items, selection, built⟩ := Outcome.exists_of_bind_eq_ok part
      rw [partItems_eq] at selection
      obtain ⟨v, read, rfl⟩ := Outcome.exists_of_map_eq_ok selection
      have path := (Schema.elementPath?_eq_some_iff distinct (Schema.hasTextKeys here)).mp named
      have object (own v : Value)
          (h : evaluateAt b levels skip (.object fields) own = .ok v) :
          ∃ built, v = .object built ∧ MirrorsMembers b members own built := by
        obtain ⟨below, less, h⟩ := exists_step_of_evaluateAt h
        exact exists_of_objectValue distinct
          (fun built => mirrorsMembers_of_mapM members here found (by omega)) h
      exact .cons path.1 read (mirrorsItems_of_mapM object built)
        (mirrorsElements_of_mapM rest others more le otherParts)
    | _ => cases compiled
  termination_by structural elements

end

end Data

section Determined

variable {p : Value → Prop} {b : Builder}

/-- Objects for the same items are the same if their members are. -/
theorem MirrorsItems.unique {members : List (Key × Value)}
    (each : ∀ {own : Value} {fields others : List (Key × Value)},
      MirrorsMembers b members own fields → MirrorsMembers b members own others → fields = others)
    {items results results' : List Value} (h : MirrorsItems b members items results)
    (h' : MirrorsItems b members items results') : results = results' := by
  induction items generalizing results results' with
  | nil =>
    cases h
    cases h'
    rfl
  | cons item items ih =>
    cases h with
    | cons detached mirrors later =>
      cases h' with
      | cons detached' mirrors' later' =>
        cases detached.symm.trans detached'
        rw [each mirrors mirrors', ih later later']

mutual

/-- Only one value mirrors a schema for a document. -/
theorem Mirrors.unique (data : Value) (all : AllScalars p data) {document v v' : Value}
    (h : Mirrors b data document v) (h' : Mirrors b data document v') : v = v' := by
  cases data with
  | text expression =>
    cases h with
    | text built =>
      cases h' with
      | text built' => exact Except.ok.inj (built.symm.trans built')
  | object members =>
    cases h with
    | object mirrors =>
      cases h' with
      | object mirrors' => rw [MirrorsMembers.unique members all.2 mirrors mirrors']
  | list elements =>
    cases h with
    | list mirrors =>
      cases h' with
      | list mirrors' => rw [MirrorsElements.unique elements all mirrors mirrors']
  | _ => cases h
  termination_by structural data

/-- The same of members. -/
theorem MirrorsMembers.unique (members : List (Key × Value)) (all : AllMembers p members)
    {document : Value} {fields fields' : List (Key × Value)}
    (h : MirrorsMembers b members document fields)
    (h' : MirrorsMembers b members document fields') : fields = fields' := by
  cases members with
  | nil =>
    cases h
    cases h'
    rfl
  | cons member rest =>
    obtain ⟨key, data⟩ := member
    obtain ⟨-, here, others⟩ := all
    cases h with
    | reserved mirrors =>
      cases h' with
      | reserved mirrors' => exact MirrorsMembers.unique rest others mirrors mirrors'
      | cons other => exact absurd rfl other
    | cons other first mirrors =>
      cases h' with
      | reserved => exact absurd rfl other
      | cons _ first' mirrors' =>
        rw [Mirrors.unique data here first first',
          MirrorsMembers.unique rest others mirrors mirrors']
  termination_by structural members

/-- The same of the elements of a list, each with one path. -/
theorem MirrorsElements.unique (elements : List Value) (all : AllItems p elements)
    {document : Value} {results results' : List Value}
    (h : MirrorsElements b elements document results)
    (h' : MirrorsElements b elements document results') : results = results' := by
  cases elements with
  | nil =>
    cases h
    cases h'
    rfl
  | cons element rest =>
    cases element with
    | object members =>
      obtain ⟨⟨distinct, here⟩, others⟩ := all
      cases h with
      | cons inside read first later =>
        cases h' with
        | cons inside' read' first' later' =>
          have found {v : Value} (among : (Key.text pathKey, v) ∈ members) :
              Fields.find? members pathKey = some v :=
            (Fields.find?_eq_some_iff distinct (Schema.hasTextKeys here)).mpr among
          cases (found inside).symm.trans (found inside')
          cases read.symm.trans read'
          rw [first.unique (MirrorsMembers.unique members here) first',
            MirrorsElements.unique rest others later later']
    | _ => cases h
  termination_by structural elements

end

end Determined

section Independence

variable {b : Builder} {document document' : Value}

/-- A list has the same outcome for two documents in which the paths of its parts read the same,
however many levels down. -/
theorem evaluateAt_list_congr {parts : List (String × Schema)}
    (reads : ∀ part ∈ parts, Path.read document part.1 = Path.read document' part.1)
    (levels skip : Nat) : evaluateAt b levels skip (.list parts) document =
      evaluateAt b levels skip (.list parts) document' := by
  rw [evaluateAt_skip]
  cases levels - skip with
  | zero => rfl
  | succ below =>
    have part : ∀ part ∈ parts,
        partValues (evaluateAt b below 1) document part.1 part.2 =
          partValues (evaluateAt b below 1) document' part.1 part.2 := by
      intro part among
      rw [partValues, partValues, partItems_eq, partItems_eq, reads part among]
    rw [evaluateAt, step, step, Outcome.mapM_congr part]

/-- The path of each part of a compiled list stands under the reserved key of an element. -/
theorem exists_element_of_compileParts {p : Value → Prop} {elements : List Value}
    (all : AllItems p elements) {parts : List (String × Schema)}
    (compiled : compileParts elements = .ok parts) {part : String × Schema} (among : part ∈ parts) :
    ∃ members, .object members ∈ elements ∧ (Key.text pathKey, .text part.1) ∈ members := by
  induction elements generalizing parts with
  | nil =>
    cases compiled
    cases among
  | cons element rest ih =>
    cases element with
    | object members =>
      obtain ⟨⟨distinct, here⟩, others⟩ := all
      obtain ⟨path, fields, parts, named, -, more, rfl⟩ := Schema.exists_of_compileParts compiled
      rcases List.mem_cons.mp among with rfl | later
      · have path := (Schema.elementPath?_eq_some_iff distinct (Schema.hasTextKeys here)).mp named
        exact ⟨members, List.mem_cons_self, path.1⟩
      · obtain ⟨members, inside, path⟩ := ih others more later
        exact ⟨members, List.mem_cons_of_mem _ inside, path⟩
    | _ => cases compiled

end Independence

/-- What is built from data mirrors the data, and nothing else does. So an object has exactly the
keys of its schema, without the reserved key and in the same order. The outcome of a list is the
same for any two documents in which the paths of its elements read the same, whether the list is
built by itself or evaluated as a part of another schema. -/
theorem mirrors_of_build (b : Builder) {p : Value → Prop} (data : Value) (all : AllScalars p data) :
    (∀ document v, b.build data document = .ok v → ∀ w, Mirrors b data document w ↔ w = v) ∧
    (∀ members document v, data = .object members → b.build data document = .ok v →
      ∃ fields, v = .object fields ∧
        fields.map Prod.fst = (members.map Prod.fst).filter fun key => !isPathKey key) ∧
    (∀ elements document document', data = .list elements →
      (∀ members path, .object members ∈ elements → (Key.text pathKey, .text path) ∈ members →
        Path.read document path = Path.read document' path) →
      b.build data document = b.build data document' ∧
      ∀ schema, compile data = .ok schema → ∀ levels skip,
        evaluateAt b levels skip schema document = evaluateAt b levels skip schema document') := by
  have mirrors {document v : Value} (h : b.build data document = .ok v) :
      Mirrors b data document v := by
    obtain ⟨schema, compiled, built⟩ := Outcome.exists_of_bind_eq_ok h
    exact mirrors_of_evaluateAt data all compiled (Nat.le_refl _) built
  refine ⟨?_, ?_, ?_⟩
  · intro document v h w
    refine ⟨fun other => Mirrors.unique data all other (mirrors h), ?_⟩
    rintro rfl
    exact mirrors h
  · rintro members document v rfl h
    cases mirrors h with
    | object inside => exact ⟨_, rfl, inside.keys⟩
  · rintro elements document document' rfl reads
    have compiledSame (schema : Schema) (compiled : compile (.list elements) = .ok schema)
        (levels skip : Nat) : evaluateAt b levels skip schema document =
          evaluateAt b levels skip schema document' := by
      obtain ⟨parts, found, rfl⟩ := Outcome.exists_of_map_eq_ok compiled
      refine evaluateAt_list_congr (fun part among => ?_) levels skip
      obtain ⟨members, inside, path⟩ := exists_element_of_compileParts all found among
      exact reads members part.1 inside path
    refine ⟨?_, compiledSame⟩
    unfold build
    cases compiled : compile (.list elements) with
    | error e => rfl
    | ok schema => exact compiledSame schema compiled _ _

/-- One text is selected, so one object is built from it; another member of the document does not
matter. -/
theorem mirrors_of_build_text :
    let members : List (Key × Value) := [(.text "b", .text "str $"), (.text pathKey, .text "$.a")]
    let document : Value := .object [(.text "a", .text "x")]
    let larger : Value := .object [(.text "c", .null), (.text "a", .text "x")]
    let v : Value := .list [.object [(.text "b", .text "x")]]
    AllScalars (fun _ => True) (.list [.object members]) ∧
    Mirrors {} (.list [.object members]) document v ∧
    ({} : Builder).build (.list [.object members]) larger = .ok v := by
  intro members document larger v
  have distinct : Fields.AreDistinct members := by
    simp [members, Fields.AreDistinct, Key.same_text, pathKey]
  have all : AllScalars (fun _ => True) (.list [.object members]) :=
    ⟨⟨distinct, ⟨_, rfl⟩, trivial, ⟨_, rfl⟩, trivial, trivial⟩, trivial⟩
  have built : ({} : Builder).build (.list [.object members]) document = .ok v := by
    have compiled : compile (.list [.object members]) =
        .ok (.list [("$.a", .object [("b", .scalar "str $")])]) := by rfl
    have found : partItems document "$.a" = .ok [.text "x"] := by rfl
    have own : detach (.text "x") = .ok (.text "x") := by
      have written : Json.write .spaced (.text "x") = .ok "\"x\"" := by rfl
      have read : Json.read "\"x\"" = .ok (.text "x") := by rfl
      rw [detach, written, Outcome.ok_bind, read]
    have object : evaluateAt {} 99 0 (.object [("b", .scalar "str $")]) (.text "x") =
        .ok (.object [(.text "b", .text "x")]) := by rfl
    have levels : ({} : Builder).levels = 101 := by rfl
    have below : evaluateAt {} 100 1 = evaluateAt {} 99 0 := evaluateAt_skip {} 100 1
    have part : partValues (evaluateAt {} 100 1) document "$.a"
        (.object [("b", .scalar "str $")]) = .ok [.object [(.text "b", .text "x")]] := by
      rw [partValues, found, Outcome.ok_bind, List.mapM_cons, own, Outcome.ok_bind, below, object]
      rfl
    rw [build, compiled, Outcome.ok_bind, evaluate, levels, evaluateAt, step, List.mapM_cons]
    dsimp only
    rw [part]
    rfl
  obtain ⟨mirrors, -, independent⟩ := mirrors_of_build {} _ all
  refine ⟨all, (mirrors document v built v).mpr rfl, ?_⟩
  have reads (path : String) (among : (Key.text pathKey, Value.text path) ∈ members) :
      Path.read larger path = Path.read document path := by
    obtain rfl : path = "$.a" := by
      simpa [members, pathKey] using among
    rfl
  have same := (independent _ larger document rfl fun other path inside among => ?_).1
  · rw [same, built]
  · rw [List.mem_singleton, Value.object.injEq] at inside
    subst inside
    exact reads path among

end Stencil.Builder
