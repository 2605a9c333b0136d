import Stencil.Function.Registry
import Stencil.Proofs.Cast

/-!
# Results of the standard functions

What a standard function gives is of the kind that it is asked for. Only the least item, the
greatest item and the mean may be null instead, where there are no items.
-/

namespace Stencil

namespace Function

/-- A call that succeeds asks for a type that the function produces, and gives what the function
gives. -/
theorem of_invoke_eq_ok {f : Function} {tag : Tag} {arguments : List Value} {v : Value}
    (h : f.invoke (some tag) arguments = .ok v) :
    tag ∈ f.types ∧ f.apply (some tag) arguments = .ok v := by
  unfold invoke at h
  split at h
  · cases h
  · next accepted =>
    split at h
    · cases h
    · refine ⟨?_, h⟩
      simpa [refused?, Option.filter] using accepted

/-- A kind of numbers. -/
def IsNumeric (kind : Kind) : Prop := kind = .integer ∨ kind = .number

/-- The items that are cast to a kind are of the kind. -/
theorem isOfKind_of_castItems {items cast : List Value} {kind : Kind}
    (h : castItems items (.one kind) = .ok cast) : ∀ item ∈ cast, IsOfKind kind item := by
  intro item among
  obtain ⟨source, -, found⟩ := Outcome.exists_of_mem_mapM h among
  exact isOfKind_cast found

/-- The sum of two numbers of a kind is of the kind. -/
theorem isOfKind_addValues {kind : Kind} (numeric : IsNumeric kind) {a b sum : Value}
    (first : IsOfKind kind a) (second : IsOfKind kind b) (h : addValues a b = .ok sum) :
    IsOfKind kind sum := by
  rcases numeric with rfl | rfl
  · obtain ⟨m, rfl⟩ := first
    obtain ⟨n, rfl⟩ := second
    cases h
    exact ⟨m + n, rfl⟩
  · obtain ⟨d, rfl⟩ := first
    obtain ⟨e, rfl⟩ := second
    obtain ⟨result, -, rfl⟩ := Outcome.exists_of_map_eq_ok h
    exact ⟨result, rfl⟩

/-- The sum of any numbers of a kind is of the kind. -/
theorem isOfKind_total {kind : Kind} (numeric : IsNumeric kind) {items : List Value}
    {start sum : Value} (first : IsOfKind kind start) (all : ∀ item ∈ items, IsOfKind kind item)
    (h : total start items = .ok sum) : IsOfKind kind sum := by
  unfold total at h
  induction items generalizing start with
  | nil =>
    cases h
    exact first
  | cons item rest ih =>
    rw [List.foldlM_cons] at h
    obtain ⟨next, added, h⟩ := Outcome.exists_of_bind_eq_ok h
    have kept := isOfKind_addValues numeric first (all item List.mem_cons_self) added
    exact ih kept (fun item among => all item (List.mem_cons_of_mem _ among)) h

/-- The best item is one of the items, or null if there are none. -/
theorem mem_of_pick {better : Value → Value → Outcome Bool} {items : List Value} {v : Value}
    (h : pick better items = .ok v) : v = .null ∨ v ∈ items := by
  cases items with
  | nil =>
    cases h
    exact .inl rfl
  | cons first rest =>
    refine .inr ?_
    simp only [pick] at h
    -- the best item so far is the one that the fold started from, or a later one
    induction rest generalizing first with
    | nil =>
      cases h
      exact List.mem_cons_self
    | cons item rest ih =>
      rw [List.foldlM_cons] at h
      obtain ⟨best, chosen, h⟩ := Outcome.exists_of_bind_eq_ok h
      obtain ⟨wins, -, chosen⟩ := Outcome.exists_of_bind_eq_ok chosen
      have among := ih best h
      cases wins <;> cases chosen
      · rcases List.mem_cons.mp among with rfl | later
        · exact List.mem_cons_self
        · exact List.mem_cons_of_mem _ (List.mem_cons_of_mem _ later)
      · exact List.mem_cons_of_mem _ among

/-- The best item among items cast to a kind is null or of the kind. -/
theorem isNullOrKind_of_pick {better : Value → Value → Outcome Bool} {items cast : List Value}
    {kind : Kind} {v : Value} (all : castItems items (.one kind) = .ok cast)
    (h : pick better cast = .ok v) : IsNullOrKind kind v := by
  rcases mem_of_pick h with null | among
  · exact .inl null
  · exact .inr (isOfKind_of_castItems all v among)

/-- A sum is of the kind asked for. -/
theorem isOfKind_applySum {kind : Kind} (numeric : IsNumeric kind) {arguments : List Value}
    {v : Value} (h : applySum (some (.one kind)) arguments = .ok v) : IsOfKind kind v := by
  obtain ⟨items, all, h⟩ := Outcome.exists_of_bind_eq_ok h
  refine isOfKind_total numeric ?_ (isOfKind_of_castItems all) h
  rcases numeric with rfl | rfl
  · exact ⟨0, rfl⟩
  · exact ⟨.zero, rfl⟩

/-- A mean is null or a decimal number. -/
theorem isNullOrKind_applyAverage (tag : Option Tag) {arguments : List Value} {v : Value}
    (h : applyAverage tag arguments = .ok v) : IsNullOrKind .number v := by
  obtain ⟨items, -, h⟩ := Outcome.exists_of_bind_eq_ok h
  split at h
  · cases h
    exact .inl rfl
  · obtain ⟨sum, -, h⟩ := Outcome.exists_of_bind_eq_ok h
    split at h
    · obtain ⟨mean, -, rfl⟩ := Outcome.exists_of_map_eq_ok h
      exact .inr ⟨mean, rfl⟩
    · cases h

/-- The functions that give null where there are no items. -/
def nullable : List String := ["min", "max", "average"]

/-- A result for a tag: of the one kind that the tag names, which is not that of all values, unless
the result is null and the function may give that. -/
def Yields (f : Function) (tag : Tag) (v : Value) : Prop :=
  ∃ kind, tag = .one kind ∧ kind ≠ .object ∧ (IsOfKind kind v ∨ v = .null ∧ f.name ∈ nullable)

/-- A numeric kind is not that of all values. -/
theorem IsNumeric.ne_object {kind : Kind} (numeric : IsNumeric kind) : kind ≠ .object := by
  rintro rfl
  rcases numeric with h | h <;> cases h

/-- The types of a function of numbers. -/
theorem exists_numeric {tag : Tag} (h : tag ∈ [Tag.one .integer, .one .number]) :
    ∃ kind, tag = .one kind ∧ IsNumeric kind := by
  simp only [List.mem_cons, List.not_mem_nil, or_false] at h
  rcases h with rfl | rfl
  · exact ⟨.integer, rfl, .inl rfl⟩
  · exact ⟨.number, rfl, .inr rfl⟩

/-- A function that may give null yields what is null or of the kind. -/
theorem Yields.of_isNullOrKind {f : Function} {kind : Kind} {v : Value} (proper : kind ≠ .object)
    (may : f.name ∈ nullable) (h : IsNullOrKind kind v) : f.Yields (.one kind) v := by
  rcases h with null | isOfKind
  · exact ⟨kind, rfl, proper, .inr ⟨null, may⟩⟩
  · exact ⟨kind, rfl, proper, .inl isOfKind⟩

variable {tag : Tag} {arguments : List Value} {v : Value}

/-- A sum is a number of the kind asked for. -/
theorem yields_sum (h : sum.invoke (some tag) arguments = .ok v) : sum.Yields tag v := by
  obtain ⟨produced, applied⟩ := of_invoke_eq_ok h
  obtain ⟨kind, rfl, numeric⟩ := exists_numeric produced
  exact ⟨kind, rfl, numeric.ne_object, .inl (isOfKind_applySum numeric applied)⟩

/-- The least item is null or of the kind asked for. -/
theorem yields_min (h : min.invoke (some tag) arguments = .ok v) : min.Yields tag v := by
  obtain ⟨produced, applied⟩ := of_invoke_eq_ok h
  obtain ⟨kind, rfl, numeric⟩ := exists_numeric produced
  obtain ⟨items, all, picked⟩ := Outcome.exists_of_bind_eq_ok applied
  exact .of_isNullOrKind numeric.ne_object (by decide) (isNullOrKind_of_pick all picked)

/-- The greatest item is null or of the kind asked for. -/
theorem yields_max (h : max.invoke (some tag) arguments = .ok v) : max.Yields tag v := by
  obtain ⟨produced, applied⟩ := of_invoke_eq_ok h
  obtain ⟨kind, rfl, numeric⟩ := exists_numeric produced
  obtain ⟨items, all, picked⟩ := Outcome.exists_of_bind_eq_ok applied
  exact .of_isNullOrKind numeric.ne_object (by decide) (isNullOrKind_of_pick all picked)

/-- A mean is null or a decimal number. -/
theorem yields_average (h : average.invoke (some tag) arguments = .ok v) :
    average.Yields tag v := by
  obtain ⟨produced, applied⟩ := of_invoke_eq_ok h
  obtain rfl := List.mem_singleton.mp produced
  have mean := isNullOrKind_applyAverage (some (.one .number)) applied
  exact .of_isNullOrKind (by decide) (by decide) mean

/-- A count is an integer. -/
theorem yields_count (h : count.invoke (some tag) arguments = .ok v) : count.Yields tag v := by
  obtain ⟨produced, applied⟩ := of_invoke_eq_ok h
  obtain rfl := List.mem_singleton.mp produced
  cases applied
  exact ⟨.integer, rfl, by decide, .inl ⟨_, rfl⟩⟩

/-- A concatenation is a text. -/
theorem yields_concat (h : concat.invoke (some tag) arguments = .ok v) : concat.Yields tag v := by
  obtain ⟨produced, applied⟩ := of_invoke_eq_ok h
  obtain rfl := List.mem_singleton.mp produced
  obtain ⟨parts, -, joined⟩ := Outcome.exists_of_bind_eq_ok applied
  cases joined
  exact ⟨.string, rfl, by decide, .inl ⟨_, rfl⟩⟩

end Function

namespace Registry

/-- A name is that of the function found under it, which is one of the registered ones. -/
theorem of_get_eq_ok {registry : Registry} {name : String} {f : Function}
    (h : registry.get name = .ok f) : f ∈ registry.functions ∧ f.name = name := by
  unfold get at h
  split at h
  · next found =>
    cases h
    exact ⟨List.mem_of_find?_eq_some found, by simpa using List.find?_some found⟩
  · cases h

/-- The functions of the standard registry are those that come with the library. -/
theorem functions_standard : standard.functions = builtins := rfl

/-- What a function of the standard registry gives is of the kind that it is asked for. -/
theorem yields_of_get_standard {name : String} {f : Function} (known : standard.get name = .ok f)
    {tag : Tag} {arguments : List Value} {v : Value}
    (h : f.invoke (some tag) arguments = .ok v) : f.Yields tag v ∧ f.name = name := by
  obtain ⟨among, named⟩ := of_get_eq_ok known
  refine ⟨?_, named⟩
  rw [functions_standard] at among
  simp only [builtins, List.mem_cons, List.not_mem_nil, or_false] at among
  rcases among with rfl | rfl | rfl | rfl | rfl | rfl
  · exact Function.yields_sum h
  · exact Function.yields_min h
  · exact Function.yields_max h
  · exact Function.yields_average h
  · exact Function.yields_count h
  · exact Function.yields_concat h

end Registry

end Stencil
