import Stencil.Http.Line

/-!
# Lines under a name

What is found under a name are the lines of that name, in order. The lines of other names are left
as they are where a line is put or added, and one that is put is the only one of its name. A line
stays one line more when lines of other names are added, replaced or put around it.
-/

namespace Stencil.Http.Lines

/-- The lines of a name. -/
def under (lines : Lines) (name : String) : Lines :=
  lines.filter fun line => sameName line.1 name

/-- The lines of all other names. -/
def without (lines : Lines) (name : String) : Lines :=
  lines.filter fun line => !sameName line.1 name

/-- Names that are the same are the same as any third one, or neither of them is. -/
theorem sameName_congr {name other : String} (same : sameName name other = true) (third : String) :
    sameName name third = sameName other third := by
  unfold sameName at same ⊢
  rw [of_decide_eq_true same]

/-- There is a line of a name if lines are found under it. -/
theorem has_eq_under (lines : Lines) (name : String) :
    has lines name = !(under lines name).isEmpty := by
  cases found : under lines name with
  | nil => exact List.any_eq_false.mpr (List.filter_eq_nil_iff.mp found)
  | cons line rest =>
    have among : line ∈ under lines name := found ▸ List.mem_cons_self
    exact List.any_eq_true.mpr ⟨line, List.mem_filter.mp among⟩

/-- The values of a name are those of the lines that are found under it. -/
theorem combined?_eq_of_under {lines others : Lines} {name : String}
    (same : under lines name = under others name) :
    combined? lines name = combined? others name := by
  unfold combined?
  unfold under at same
  rw [same]

/-- Lines without a name have none to show for it. -/
theorem under_eq_nil_of_has {lines : Lines} {name : String} (h : has lines name = false) :
    under lines name = [] := by
  rw [has_eq_under, Bool.not_eq_false', List.isEmpty_iff] at h
  exact h

/-- Under a name are the lines of each of two groups. -/
theorem under_append (lines others : Lines) (name : String) :
    under (lines ++ others) name = under lines name ++ under others name :=
  List.filter_append ..

/-- A default is not found under another name. -/
theorem under_putDefault {lines : Lines} {name other : String} (value : String)
    (differ : sameName name other = false) :
    under (putDefault lines name value) other = under lines other := by
  unfold putDefault
  split
  · rfl
  · have none : under [(name, value)] other = [] := List.filter_cons_of_neg (by simp [differ])
    rw [under_append, none, List.append_nil]

/-- Putting a line of a name changes nothing under another name. -/
theorem under_put {lines : Lines} {name other : String} (value : String)
    (differ : sameName name other = false) :
    under (put lines name value) other = under lines other := by
  -- a line of the one name is not of the other
  have apart {line : String × String} (named : sameName line.1 name = true) :
      sameName line.1 other = false := (sameName_congr named other).trans differ
  induction lines with
  | nil => exact List.filter_cons_of_neg (by simp [differ])
  | cons first rest ih =>
    rw [put]
    split
    · next named =>
      unfold under
      rw [List.filter_cons_of_neg (by simp [differ]),
        List.filter_cons_of_neg (by simp [apart named]), List.filter_filter]
      refine List.filter_congr fun line _ => ?_
      cases same : sameName line.1 name with
      | false => rw [Bool.not_false, Bool.and_true]
      | true => rw [apart same, Bool.false_and]
    · unfold under at ih ⊢
      rw [List.filter_cons, List.filter_cons, ih]

/-- A line that is put is the only one of its name. -/
theorem under_put_self (lines : Lines) (name value : String) :
    under (put lines name value) name = [(name, value)] := by
  have own : sameName name name = true := sameName_self name
  induction lines with
  | nil => simp [put, under, own]
  | cons first rest ih =>
    rw [put]
    split
    · simp [under, own]
    · next other => simpa [under, other] using ih

/-- Putting a line leaves the lines of all other names as they are. -/
theorem without_put (lines : Lines) (name value : String) :
    without (put lines name value) name = without lines name := by
  have own : sameName name name = true := sameName_self name
  induction lines with
  | nil => simp [put, without, own]
  | cons first rest ih =>
    rw [put]
    split
    · next named => simp [without, own, named]
    · next other => simpa [without, other] using ih

/-- Besides a name are the lines of each of two groups. -/
theorem without_append (lines others : Lines) (name : String) :
    without (lines ++ others) name = without lines name ++ without others name :=
  List.filter_append ..

/-- Lines without a name are all besides it. -/
theorem without_eq_self_of_has {lines : Lines} {name : String} (h : has lines name = false) :
    without lines name = lines := by
  refine List.filter_eq_self.mpr fun line among => ?_
  simpa using List.any_eq_false.mp h line among

/-- The second lines are the first ones with one more line somewhere. -/
def IsInserted (line : String × String) (lines more : Lines) : Prop :=
  ∃ before after, lines = before ++ after ∧ more = before ++ line :: after

namespace IsInserted

variable {line : String × String} {lines more : Lines} {name : String}

/-- A line may come last. -/
theorem last (line : String × String) (lines : Lines) : IsInserted line lines (lines ++ [line]) :=
  ⟨lines, [], (List.append_nil lines).symm, rfl⟩

/-- Other lines may come first. -/
theorem append_left (others : Lines) (inserted : IsInserted line lines more) :
    IsInserted line (others ++ lines) (others ++ more) := by
  obtain ⟨before, after, rfl, rfl⟩ := inserted
  exact ⟨others ++ before, after, by rw [List.append_assoc], by rw [List.append_assoc]⟩

/-- Other lines may come last. -/
theorem append_right (others : Lines) (inserted : IsInserted line lines more) :
    IsInserted line (lines ++ others) (more ++ others) := by
  obtain ⟨before, after, rfl, rfl⟩ := inserted
  exact ⟨before, after ++ others, by rw [List.append_assoc], by
    rw [List.append_assoc, List.cons_append]⟩

/-- A line of another name is not found under a name. -/
theorem under_eq (inserted : IsInserted line lines more) (differ : sameName line.1 name = false) :
    under more name = under lines name := by
  obtain ⟨before, after, rfl, rfl⟩ := inserted
  rw [under_append, under_append]
  unfold under
  rw [List.filter_cons_of_neg (by simp [differ])]

/-- A line of another name tells nothing about whether there is a name. -/
theorem has_eq (inserted : IsInserted line lines more) (differ : sameName line.1 name = false) :
    has more name = has lines name := by
  rw [has_eq_under, has_eq_under, inserted.under_eq differ]

/-- A default of another name is added to both or to none. -/
theorem putDefault (value : String) (inserted : IsInserted line lines more)
    (differ : sameName line.1 name = false) :
    IsInserted line (putDefault lines name value) (Lines.putDefault more name value) := by
  unfold Lines.putDefault
  rw [inserted.has_eq differ]
  split
  · exact inserted
  · exact inserted.append_right _

/-- A line of another name is replaced in both. -/
theorem put (value : String) (inserted : IsInserted line lines more)
    (differ : sameName line.1 name = false) :
    IsInserted line (put lines name value) (Lines.put more name value) := by
  obtain ⟨before, after, rfl, rfl⟩ := inserted
  induction before with
  | nil =>
    refine ⟨[], Lines.put after name value, rfl, ?_⟩
    rw [List.nil_append, Lines.put, if_neg (by simp [differ])]
    rfl
  | cons first before ih =>
    rw [List.cons_append, List.cons_append, Lines.put, Lines.put]
    split
    · refine ⟨(name, value) :: before.filter fun line => !sameName line.1 name,
        after.filter fun line => !sameName line.1 name, ?_, ?_⟩
      · rw [List.filter_append, List.cons_append]
      · rw [List.filter_append, List.filter_cons_of_pos (by simp [differ]), List.cons_append]
    · exact ih.append_left [first]

end IsInserted

end Stencil.Http.Lines
