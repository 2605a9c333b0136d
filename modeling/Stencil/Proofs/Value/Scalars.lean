import Stencil.Proofs.Value.Fields
import Stencil.Value.Compare
import Stencil.Value.Literal

/-!
# The scalars of a value

A property of every scalar that a value holds, however deep. The lists and objects around the
scalars are those of JSON: the keys of an object are different texts. Such a property carries over
to all the values that are found in the value.

A value whose scalars are changed one by one keeps its lists and objects. It equals the value itself
exactly when each of its scalars does.
-/

namespace Stencil

namespace Value

mutual

/-- Every scalar that a value holds has a property, and its objects have different texts as keys. -/
def AllScalars (p : Value → Prop) : Value → Prop
  | .list items => AllItems p items
  | .object members => Fields.AreDistinct members ∧ AllMembers p members
  | v => p v
  termination_by structural v => v

/-- Every scalar of every item has the property. -/
def AllItems (p : Value → Prop) : List Value → Prop
  | [] => True
  | item :: rest => AllScalars p item ∧ AllItems p rest
  termination_by structural items => items

/-- Every key is a text, and every scalar of every member has the property. -/
def AllMembers (p : Value → Prop) : List (Key × Value) → Prop
  | [] => True
  | (key, item) :: rest => (∃ name, key = .text name) ∧ AllScalars p item ∧ AllMembers p rest
  termination_by structural members => members

end

variable {p q : Value → Prop}

/-- The scalars of items are those of each one. -/
theorem allItems_iff {items : List Value} :
    AllItems p items ↔ ∀ item ∈ items, AllScalars p item := by
  induction items with
  | nil => exact ⟨fun _ => nofun, fun _ => trivial⟩
  | cons item rest ih => rw [AllItems, ih, List.forall_mem_cons]

/-- The keys and the scalars of members are those of each one. -/
theorem allMembers_iff {members : List (Key × Value)} : AllMembers p members ↔
    ∀ member ∈ members, (∃ name, member.1 = .text name) ∧ AllScalars p member.2 := by
  induction members with
  | nil => exact ⟨fun _ => nofun, fun _ => trivial⟩
  | cons member rest ih =>
    obtain ⟨key, item⟩ := member
    rw [AllMembers, ih, List.forall_mem_cons, and_assoc]

/-- The members that entries give have the scalars of the entries. -/
theorem allScalars_ofList {entries : List (Key × Value)} (all : AllMembers p entries) :
    AllScalars p (.object (Fields.ofList entries)) :=
  ⟨Fields.areDistinct_ofList entries, allMembers_iff.mpr
    (Fields.forall_mem_ofList (fun key => ∃ name, key = .text name) (AllScalars p)
      (allMembers_iff.mp all))⟩

mutual

/-- A weaker property is one of every scalar too. -/
theorem AllScalars.mono (weaker : ∀ v, p v → q v) (v : Value) (all : AllScalars p v) :
    AllScalars q v := by
  cases v with
  | list items => exact AllItems.mono weaker items all
  | object members => exact ⟨all.1, AllMembers.mono weaker members all.2⟩
  | _ => exact weaker _ all
  termination_by structural v

/-- The same of items. -/
theorem AllItems.mono (weaker : ∀ v, p v → q v) (items : List Value) (all : AllItems p items) :
    AllItems q items := by
  cases items with
  | nil => trivial
  | cons item rest =>
    exact ⟨AllScalars.mono weaker item all.1, AllItems.mono weaker rest all.2⟩
  termination_by structural items

/-- The same of members. -/
theorem AllMembers.mono (weaker : ∀ v, p v → q v) (members : List (Key × Value))
    (all : AllMembers p members) : AllMembers q members := by
  cases members with
  | nil => trivial
  | cons member rest =>
    obtain ⟨key, item⟩ := member
    exact ⟨all.1, AllScalars.mono weaker item all.2.1, AllMembers.mono weaker rest all.2.2⟩
  termination_by structural members

end

mutual

/-- Two properties of every scalar are one. -/
theorem AllScalars.and (v : Value) (all : AllScalars p v) (all' : AllScalars q v) :
    AllScalars (fun s => p s ∧ q s) v := by
  cases v with
  | list items => exact AllItems.and items all all'
  | object members => exact ⟨all.1, AllMembers.and members all.2 all'.2⟩
  | _ => exact ⟨all, all'⟩
  termination_by structural v

/-- The same of items. -/
theorem AllItems.and (items : List Value) (all : AllItems p items) (all' : AllItems q items) :
    AllItems (fun s => p s ∧ q s) items := by
  cases items with
  | nil => trivial
  | cons item rest =>
    exact ⟨AllScalars.and item all.1 all'.1, AllItems.and rest all.2 all'.2⟩
  termination_by structural items

/-- The same of members. -/
theorem AllMembers.and (members : List (Key × Value)) (all : AllMembers p members)
    (all' : AllMembers q members) : AllMembers (fun s => p s ∧ q s) members := by
  cases members with
  | nil => trivial
  | cons member rest =>
    obtain ⟨key, item⟩ := member
    exact ⟨all.1, AllScalars.and item all.2.1 all'.2.1, AllMembers.and rest all.2.2 all'.2.2⟩
  termination_by structural members

end

mutual

/-- A value of short scalars holds no integer that is too long. -/
theorem holdsLong_eq_false (v : Value) (short : AllScalars (fun s => s.holdsLong = false) v) :
    v.holdsLong = false := by
  cases v with
  | list items => exact anyLong_eq_false items short
  | object members => exact anyMemberLong_eq_false members short.2
  | _ => exact short
  termination_by structural v

/-- The same of items. -/
theorem anyLong_eq_false (items : List Value)
    (short : AllItems (fun s => s.holdsLong = false) items) : anyLong items = false := by
  cases items with
  | nil => rfl
  | cons item rest =>
    rw [anyLong, holdsLong_eq_false item short.1, anyLong_eq_false rest short.2, Bool.or_false]
  termination_by structural items

/-- The same of members, whose keys are texts. -/
theorem anyMemberLong_eq_false (members : List (Key × Value))
    (short : AllMembers (fun s => s.holdsLong = false) members) :
    anyMemberLong members = false := by
  cases members with
  | nil => rfl
  | cons member rest =>
    obtain ⟨key, item⟩ := member
    obtain ⟨⟨name, rfl⟩, first, others⟩ := short
    have key : keyIsLong (.text name) = false := rfl
    rw [anyMemberLong, key, holdsLong_eq_false item first, anyMemberLong_eq_false rest others,
      Bool.or_false, Bool.or_false]
  termination_by structural members

end

mutual

/-- The value with every scalar changed. -/
def mapScalars (f : Value → Value) : Value → Value
  | .list items => .list (mapItems f items)
  | .object members => .object (mapMembers f members)
  | v => f v
  termination_by structural v => v

/-- The items with every scalar changed. -/
def mapItems (f : Value → Value) : List Value → List Value
  | [] => []
  | item :: rest => mapScalars f item :: mapItems f rest
  termination_by structural items => items

/-- The members with every scalar changed. -/
def mapMembers (f : Value → Value) : List (Key × Value) → List (Key × Value)
  | [] => []
  | (key, item) :: rest => (key, mapScalars f item) :: mapMembers f rest
  termination_by structural members => members

end

variable {f : Value → Value}

/-- Members are changed one by one, and keep their keys. -/
theorem mapMembers_eq_map (f : Value → Value) (members : List (Key × Value)) :
    mapMembers f members = members.map fun (key, item) => (key, mapScalars f item) := by
  induction members with
  | nil => rfl
  | cons member rest ih =>
    obtain ⟨key, item⟩ := member
    rw [mapMembers, ih, List.map_cons]

/-- The keys stay the same. -/
theorem keys_mapMembers (f : Value → Value) (members : List (Key × Value)) :
    (mapMembers f members).map Prod.fst = members.map Prod.fst := by
  rw [mapMembers_eq_map, List.map_map]
  rfl

/-- Setting a member and changing the members can be done in either order. -/
theorem mapMembers_insert (f : Value → Value) (members : List (Key × Value)) (key : Key)
    (item : Value) :
    mapMembers f (Fields.insert members key item) =
      Fields.insert (mapMembers f members) key (mapScalars f item) := by
  induction members with
  | nil => rfl
  | cons member rest ih =>
    obtain ⟨other, old⟩ := member
    rw [Fields.insert, mapMembers, Fields.insert]
    split
    · rw [mapMembers]
    · rw [mapMembers, ih]

/-- The members that changed entries give are the members that the entries give, changed. -/
theorem mapMembers_ofList (f : Value → Value) (entries : List (Key × Value)) :
    mapMembers f (Fields.ofList entries) = Fields.ofList (mapMembers f entries) := by
  have scan (entries fields : List (Key × Value)) :
      mapMembers f (entries.foldl (fun fields entry => Fields.insert fields entry.1 entry.2)
          fields) =
        (mapMembers f entries).foldl (fun fields entry => Fields.insert fields entry.1 entry.2)
          (mapMembers f fields) := by
    induction entries generalizing fields with
    | nil => rfl
    | cons entry rest ih =>
      obtain ⟨key, item⟩ := entry
      rw [List.foldl_cons, ih, mapMembers_insert, mapMembers, List.foldl_cons]
  exact scan entries []

mutual

/-- A value with changed scalars equals the value if each changed scalar equals the scalar. -/
theorem same_mapScalars_iff (scalar : ∀ s, p s → (same (f s) s = true ↔ q s)) (v : Value)
    (all : AllScalars p v) : same (mapScalars f v) v = true ↔ AllScalars q v := by
  cases v with
  | list items => exact sameItems_mapItems_iff scalar items all
  | object members =>
    obtain ⟨distinct, all⟩ := all
    have length : (mapMembers f members).length = members.length := by
      rw [mapMembers_eq_map, List.length_map]
    have each := sameMembers_mapMembers_iff scalar members all members distinct
      (fun member among => (allMembers_iff.mp all member among).1) (fun _ among => among)
    rw [mapScalars, same, decide_eq_true length, Bool.true_and, each, AllScalars,
      and_iff_right distinct]
  | _ => exact scalar _ all
  termination_by structural v

/-- The same of items. -/
theorem sameItems_mapItems_iff (scalar : ∀ s, p s → (same (f s) s = true ↔ q s))
    (items : List Value) (all : AllItems p items) :
    sameItems (mapItems f items) items = true ↔ AllItems q items := by
  cases items with
  | nil => exact iff_of_true rfl trivial
  | cons item rest =>
    rw [mapItems, sameItems, Bool.and_eq_true, AllItems,
      same_mapScalars_iff scalar item all.1, sameItems_mapItems_iff scalar rest all.2]
  termination_by structural items

/-- The same of members among others with different texts as keys. -/
theorem sameMembers_mapMembers_iff (scalar : ∀ s, p s → (same (f s) s = true ↔ q s))
    (members : List (Key × Value)) (all : AllMembers p members) (others : List (Key × Value))
    (distinct : Fields.AreDistinct others) (texts : Fields.HasTextKeys others)
    (among : ∀ member ∈ members, member ∈ others) :
    sameMembers (mapMembers f members) others = true ↔ AllMembers q members := by
  cases members with
  | nil => exact iff_of_true rfl trivial
  | cons member rest =>
    obtain ⟨key, item⟩ := member
    obtain ⟨⟨name, rfl⟩, first, later⟩ := all
    have found : Fields.get? others (.text name) = some item :=
      (Fields.find?_eq_some_iff distinct texts).mpr (among _ List.mem_cons_self)
    have inside := fun member later => among member (List.mem_cons_of_mem _ later)
    have named : ∃ other, Key.text name = .text other := ⟨name, rfl⟩
    rw [mapMembers, sameMembers, found, Bool.and_eq_true, AllMembers, and_iff_right named,
      same_mapScalars_iff scalar item first,
      sameMembers_mapMembers_iff scalar rest later others distinct texts inside]
  termination_by structural members

end

end Value

end Stencil
