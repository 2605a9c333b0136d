import Stencil.Value.Basic

/-!
# Laws of members

Members with different keys stay as they are when they are set one after another. Whatever is set,
the keys of the members stay different, and nothing is among the members that was not set.
-/

namespace Stencil.Fields

variable {α : Type}

/-- No two members have the same key. -/
def AreDistinct (fields : Fields α) : Prop :=
  (fields.map Prod.fst).Pairwise fun earlier later => earlier.same later = false

/-- A member with a new key comes last. -/
theorem insert_of_new {fields : Fields α} {key : Key}
    (new : ∀ other ∈ fields.map Prod.fst, other.same key = false) (value : α) :
    insert fields key value = fields ++ [(key, value)] := by
  induction fields with
  | nil => rfl
  | cons entry rest ih =>
    obtain ⟨other, old⟩ := entry
    have differs : other.same key = false := new other (by simp)
    have others := ih fun k hk => new k (List.mem_cons_of_mem other hk)
    rw [insert, differs, others]
    rfl

/-- A list without repeated keys is its own members. -/
theorem ofList_of_areDistinct {entries : List (Key × α)} (distinct : AreDistinct entries) :
    ofList entries = entries := by
  -- The members set so far are those before the rest of the list.
  have scan (rest before : List (Key × α)) (distinct : AreDistinct (before ++ rest)) :
      rest.foldl (fun fields entry => insert fields entry.1 entry.2) before = before ++ rest := by
    induction rest generalizing before with
    | nil => rw [List.foldl_nil, List.append_nil]
    | cons entry rest ih =>
      have new : ∀ other ∈ before.map Prod.fst, other.same entry.1 = false := by
        intro other earlier
        rw [AreDistinct, List.map_append, List.pairwise_append] at distinct
        exact distinct.2.2 other earlier entry.1 (by simp)
      have split : before ++ entry :: rest = before ++ [entry] ++ rest := by simp
      rw [split] at distinct ⊢
      rw [List.foldl_cons, insert_of_new new]
      exact ih _ distinct
  exact scan entries [] distinct

variable {fields : Fields α} {key : Key} {value : α}

/-- Setting a member keeps the keys, of which the last one may be new. -/
theorem keys_insert (fields : Fields α) (key : Key) (value : α) :
    (insert fields key value).map Prod.fst = fields.map Prod.fst ∨
    (insert fields key value).map Prod.fst = fields.map Prod.fst ++ [key] ∧
      ∀ other ∈ fields.map Prod.fst, other.same key = false := by
  induction fields with
  | nil => exact .inr ⟨rfl, nofun⟩
  | cons entry rest ih =>
    obtain ⟨other, old⟩ := entry
    rw [insert]
    by_cases same : other.same key
    · rw [if_pos same]
      exact .inl rfl
    · rw [if_neg same, List.map_cons, List.map_cons]
      rcases ih with kept | ⟨more, new⟩
      · exact .inl (by rw [kept])
      · refine .inr ⟨by rw [more, List.cons_append], fun k among => ?_⟩
        rcases List.mem_cons.mp among with rfl | later
        · exact Bool.eq_false_iff.mpr same
        · exact new k later

/-- Setting a member keeps the keys different. -/
theorem AreDistinct.insert (distinct : AreDistinct fields) (key : Key) (value : α) :
    AreDistinct (insert fields key value) := by
  unfold AreDistinct at distinct ⊢
  rcases keys_insert fields key value with kept | ⟨more, new⟩
  · rwa [kept]
  · rw [more, List.pairwise_append]
    refine ⟨distinct, List.pairwise_singleton _ _, fun other among k single => ?_⟩
    rw [List.mem_singleton.mp single]
    exact new other among

/-- A member of members one of which was set is that one, with the key that it had or was given, or
was there before. -/
theorem mem_insert {entry : Key × α} (among : entry ∈ insert fields key value) :
    entry ∈ fields ∨ entry.2 = value ∧ (entry.1 = key ∨ ∃ old, (entry.1, old) ∈ fields) := by
  induction fields with
  | nil =>
    rw [List.mem_singleton.mp among]
    exact .inr ⟨rfl, .inl rfl⟩
  | cons first rest ih =>
    obtain ⟨other, old⟩ := first
    rw [insert] at among
    split at among
    · rcases List.mem_cons.mp among with rfl | later
      · exact .inr ⟨rfl, .inr ⟨old, List.mem_cons_self⟩⟩
      · exact .inl (List.mem_cons_of_mem _ later)
    · rcases List.mem_cons.mp among with rfl | later
      · exact .inl List.mem_cons_self
      · rcases ih later with there | ⟨set, named | ⟨old, there⟩⟩
        · exact .inl (List.mem_cons_of_mem _ there)
        · exact .inr ⟨set, .inl named⟩
        · exact .inr ⟨set, .inr ⟨old, List.mem_cons_of_mem _ there⟩⟩

/-- A property of keys and values that every entry has is one of every member that they give. -/
theorem forall_mem_ofList (keys : Key → Prop) (values : α → Prop) {entries : List (Key × α)}
    (all : ∀ entry ∈ entries, keys entry.1 ∧ values entry.2) :
    ∀ member ∈ ofList entries, keys member.1 ∧ values member.2 := by
  -- by induction on the entries, for any members that are set before
  have scan (entries : List (Key × α)) (fields : Fields α)
      (before : ∀ member ∈ fields, keys member.1 ∧ values member.2)
      (all : ∀ entry ∈ entries, keys entry.1 ∧ values entry.2) :
      ∀ member ∈ entries.foldl (fun fields entry => insert fields entry.1 entry.2) fields,
        keys member.1 ∧ values member.2 := by
    induction entries generalizing fields with
    | nil => exact before
    | cons entry rest ih =>
      obtain ⟨named, valued⟩ := all entry List.mem_cons_self
      refine ih _ (fun member among => ?_)
        fun other later => all other (List.mem_cons_of_mem _ later)
      rcases mem_insert among with there | ⟨set, name | ⟨old, there⟩⟩
      · exact before member there
      · exact ⟨name ▸ named, set ▸ valued⟩
      · exact ⟨(before _ there).1, set ▸ valued⟩
  exact scan entries [] nofun all

/-- The keys of the members that entries give are different. -/
theorem areDistinct_ofList (entries : List (Key × α)) : AreDistinct (ofList entries) := by
  have scan (entries : List (Key × α)) (fields : Fields α) (distinct : AreDistinct fields) :
      AreDistinct (entries.foldl (fun fields entry => insert fields entry.1 entry.2) fields) := by
    induction entries generalizing fields with
    | nil => exact distinct
    | cons entry rest ih => exact ih _ (distinct.insert entry.1 entry.2)
  exact scan entries [] List.Pairwise.nil

/-- The keys of members are texts. -/
def HasTextKeys (fields : Fields α) : Prop := ∀ member ∈ fields, ∃ name, member.1 = .text name

/-- A member in front of others whose keys are texts has a text as key, too. -/
theorem HasTextKeys.exists_cons {member : Key × α} (texts : HasTextKeys (member :: fields)) :
    ∃ name value, member = (.text name, value) ∧ HasTextKeys fields := by
  obtain ⟨⟨name, named⟩, others⟩ := List.forall_mem_cons.mp texts
  exact ⟨name, member.2, Prod.ext named rfl, others⟩

/-- The member found in members with one in front is that one if it has the key. -/
theorem find?_cons (first : String) (old : α) (rest : Fields α) (name : String) :
    find? ((.text first, old) :: rest) name =
      if first = name then some old else find? rest name := by
  rw [find?, get?, List.find?_cons]
  dsimp only
  rw [Key.same_text]
  by_cases same : first = name
  · rw [decide_eq_true same, if_pos same]
    rfl
  · rw [decide_eq_false same, if_neg same]
    rfl

/-- Among members with different texts as keys, the one that is found is the one with the key. -/
theorem find?_eq_some_iff {name : String} (distinct : AreDistinct fields)
    (texts : HasTextKeys fields) :
    find? fields name = some value ↔ (Key.text name, value) ∈ fields := by
  induction fields with
  | nil => exact ⟨nofun, nofun⟩
  | cons member rest ih =>
    obtain ⟨first, old, rfl, others⟩ := texts.exists_cons
    obtain ⟨new, distinct⟩ := List.pairwise_cons.mp distinct
    have later := ih distinct others
    rw [find?_cons, List.mem_cons]
    by_cases same : first = name
    · subst same
      have absent : (Key.text first, value) ∉ rest := by
        intro among
        have differs := new (.text first) (List.mem_map.mpr ⟨_, among, rfl⟩)
        rw [Key.same_text] at differs
        simp at differs
      simp [absent, eq_comm]
    · have other : ¬(Key.text name, value) = (Key.text first, old) := by
        rintro ⟨⟩
        exact same rfl
      rw [if_neg same, or_iff_right other]
      exact later

/-- The member found in two parts is that of the first one that has it. -/
theorem find?_append (fields others : Fields α) (name : String) :
    find? (fields ++ others) name = (find? fields name).or (find? others name) := by
  rw [find?, get?, List.find?_append, Option.map_or]
  rfl

/-- Nothing is found exactly if no member has the key. -/
theorem find?_eq_none_iff {name : String} (texts : HasTextKeys fields) :
    find? fields name = none ↔ ∀ member ∈ fields, member.1 ≠ .text name := by
  induction fields with
  | nil => exact ⟨nofun, fun _ => rfl⟩
  | cons member rest ih =>
    obtain ⟨first, old, rfl, others⟩ := texts.exists_cons
    rw [find?_cons, List.forall_mem_cons]
    by_cases same : first = name
    · simp [same]
    · rw [if_neg same, ih others]
      simp [same]

/-- Nothing is found under a key that differs from those of all members. -/
theorem find?_eq_none_of_new {name : String} (texts : HasTextKeys fields)
    (new : ∀ other ∈ fields.map Prod.fst, (Key.text name).same other = false) :
    find? fields name = none := by
  refine (find?_eq_none_iff texts).mpr fun member among equal => ?_
  have differs := new member.1 (List.mem_map_of_mem among)
  rw [equal, Key.same_text] at differs
  simp at differs

/-- Setting a member keeps the keys texts. -/
theorem HasTextKeys.insert (texts : HasTextKeys fields) (name : String) (value : α) :
    HasTextKeys (insert fields (.text name) value) := by
  intro member among
  rcases mem_insert among with there | ⟨-, new | ⟨old, there⟩⟩
  · exact texts member there
  · exact ⟨name, new⟩
  · exact texts (member.1, old) there

/-- A member that was set is found, and every other one as before. -/
theorem find?_insert (texts : HasTextKeys fields) (name : String) (value : α) (other : String) :
    find? (Fields.insert fields (.text name) value) other =
      if name = other then some value else find? fields other := by
  induction fields with
  | nil => exact find?_cons name value [] other
  | cons member rest ih =>
    obtain ⟨first, old, rfl, others⟩ := texts.exists_cons
    rw [Fields.insert, Key.same_text]
    by_cases same : first = name
    · subst same
      rw [decide_eq_true rfl, if_pos rfl, find?_cons, find?_cons]
      split <;> rfl
    · rw [decide_eq_false same, if_neg Bool.false_ne_true, find?_cons, ih others, find?_cons]
      by_cases asked : first = other
      · have differs : ¬name = other := fun equal => same (asked.trans equal.symm)
        rw [if_pos asked, if_pos asked, if_neg differs]
      · rw [if_neg asked, if_neg asked]

/-- A member that is found is one of the members. -/
theorem exists_mem_of_find? {name : String} (found : find? fields name = some value) :
    ∃ key, (key, value) ∈ fields := by
  obtain ⟨entry, first, rfl⟩ := Option.map_eq_some_iff.mp found
  exact ⟨entry.1, List.mem_of_find?_eq_some first⟩

end Stencil.Fields
