/-!
# Laws of outcomes

A step after a result goes on with the result, a step after a failure is the failure. A composed
computation has a result only where each of its steps has one; its failures are failures of its
steps; and where its steps are cut off by one fixed failure, so is the whole.
-/

namespace Stencil.Outcome

variable {ε α β : Type}

/-- A step after a result goes on with it. -/
@[simp] theorem ok_bind (a : α) (next : α → Except ε β) : (Except.ok a >>= next) = next a := rfl

/-- A step after a failure is not made. -/
@[simp] theorem error_bind (e : ε) (next : α → Except ε β) :
    (Except.error e >>= next) = Except.error e := rfl

/-- A function of a result. -/
@[simp] theorem map_ok (f : α → β) (a : α) : (Except.ok a : Except ε α).map f = .ok (f a) := rfl

/-- A failure stays what it is. -/
@[simp] theorem map_error (f : α → β) (e : ε) :
    (Except.error e : Except ε α).map f = .error e := rfl

/-- Only a result is kept. -/
theorem toOption_eq_some_iff {x : Except ε α} {a : α} : x.toOption = some a ↔ x = .ok a := by
  cases x <;> simp [Except.toOption]

/-- A function of a result comes from a result. -/
theorem exists_of_map_eq_ok {f : α → β} {x : Except ε α} {b : β} (h : x.map f = .ok b) :
    ∃ a, x = .ok a ∧ f a = b := by
  cases x with
  | error => cases h
  | ok a =>
    cases h
    exact ⟨a, rfl, rfl⟩

/-- The result of two steps comes from a result of the first one. -/
theorem exists_of_bind_eq_ok {next : α → Except ε β} {x : Except ε α} {b : β}
    (h : x >>= next = .ok b) : ∃ a, x = .ok a ∧ next a = .ok b := by
  cases x with
  | error => cases h
  | ok a => exact ⟨a, rfl, h⟩

/-- Each result of a step for every item is the result of the step for some item. -/
theorem exists_of_mem_mapM {f : α → Except ε β} {items : List α} {results : List β}
    (h : items.mapM f = .ok results) {b : β} (among : b ∈ results) : ∃ a ∈ items, f a = .ok b := by
  induction items generalizing results with
  | nil =>
    cases h
    cases among
  | cons a items ih =>
    rw [List.mapM_cons] at h
    obtain ⟨first, found, h⟩ := exists_of_bind_eq_ok h
    obtain ⟨others, rest, h⟩ := exists_of_bind_eq_ok h
    cases h
    rcases List.mem_cons.mp among with rfl | among
    · exact ⟨a, List.mem_cons_self, found⟩
    · obtain ⟨a', later, found'⟩ := ih rest among
      exact ⟨a', List.mem_cons_of_mem a later, found'⟩

/-- Where a step for every item has results, it has one for each. -/
theorem exists_of_mapM_eq_ok {f : α → Except ε β} {items : List α} {results : List β}
    (h : items.mapM f = .ok results) {a : α} (among : a ∈ items) : ∃ b, f a = .ok b := by
  induction items generalizing results with
  | nil => cases among
  | cons first items ih =>
    rw [List.mapM_cons] at h
    obtain ⟨b, found, h⟩ := exists_of_bind_eq_ok h
    obtain ⟨others, rest, -⟩ := exists_of_bind_eq_ok h
    rcases List.mem_cons.mp among with rfl | later
    · exact ⟨b, found⟩
    · exact ih rest later

/-- Steps that agree on every item agree on all of them. -/
theorem mapM_congr {f g : α → Except ε β} {items : List α} (h : ∀ a ∈ items, f a = g a) :
    items.mapM f = items.mapM g := by
  induction items with
  | nil => rfl
  | cons a items ih =>
    have others := ih fun other later => h other (List.mem_cons_of_mem a later)
    rw [List.mapM_cons, List.mapM_cons, h a List.mem_cons_self, others]

/-- Two steps have the same results for all items exactly if they have one for each item. -/
theorem exists_mapM_eq_ok_iff {f g : α → Except ε β} {items : List α} :
    (∃ results, items.mapM f = .ok results ∧ items.mapM g = .ok results) ↔
      ∀ a ∈ items, ∃ b, f a = .ok b ∧ g a = .ok b := by
  induction items with
  | nil => exact ⟨fun _ => nofun, fun _ => ⟨[], rfl, rfl⟩⟩
  | cons a items ih =>
    rw [List.forall_mem_cons, ← ih, List.mapM_cons, List.mapM_cons]
    constructor
    · rintro ⟨results, one, other⟩
      obtain ⟨b, first, one⟩ := exists_of_bind_eq_ok one
      obtain ⟨later, others, one⟩ := exists_of_bind_eq_ok one
      cases one
      obtain ⟨b', first', other⟩ := exists_of_bind_eq_ok other
      obtain ⟨later', others', other⟩ := exists_of_bind_eq_ok other
      cases other
      exact ⟨⟨b, first, first'⟩, later, others, others'⟩
    · rintro ⟨⟨b, first, first'⟩, later, others, others'⟩
      rw [first, first', ok_bind, ok_bind, others, others']
      exact ⟨b :: later, rfl, rfl⟩

/-- In another order, a step for every item has the results in that order. -/
theorem exists_mapM_of_perm {f : α → Except ε β} {items others : List α} {results : List β}
    (order : items.Perm others) (h : items.mapM f = .ok results) :
    ∃ later, others.mapM f = .ok later ∧ results.Perm later := by
  induction order generalizing results with
  | nil =>
    cases h
    exact ⟨[], rfl, .nil⟩
  | cons a order ih =>
    rw [List.mapM_cons] at h
    obtain ⟨b, found, h⟩ := exists_of_bind_eq_ok h
    obtain ⟨rest, all, h⟩ := exists_of_bind_eq_ok h
    cases h
    obtain ⟨later, all', order'⟩ := ih all
    exact ⟨b :: later, by rw [List.mapM_cons, found, ok_bind, all', ok_bind]; rfl, order'.cons b⟩
  | swap a a' items =>
    rw [List.mapM_cons, List.mapM_cons] at h
    obtain ⟨b', found', h⟩ := exists_of_bind_eq_ok h
    obtain ⟨rest', h', h⟩ := exists_of_bind_eq_ok h
    obtain ⟨b, found, h'⟩ := exists_of_bind_eq_ok h'
    obtain ⟨rest, all, h'⟩ := exists_of_bind_eq_ok h'
    cases h'
    cases h
    refine ⟨b :: b' :: rest, ?_, .swap b b' rest⟩
    rw [List.mapM_cons, List.mapM_cons, found, found', ok_bind, ok_bind, all]
    rfl
  | trans _ _ first second =>
    obtain ⟨between, all, order⟩ := first h
    obtain ⟨later, all', order'⟩ := second all
    exact ⟨later, all', order.trans order'⟩

/-- The items that pass a test are among the items. -/
theorem mem_of_mem_filterM {f : α → Except ε Bool} {items kept : List α}
    (h : items.filterM f = .ok kept) {a : α} (among : a ∈ kept) : a ∈ items := by
  -- by induction on the items, for any that have passed before
  have scan (items before kept : List α) (h : items.filterAuxM f before = .ok kept)
      (among : a ∈ kept) : a ∈ before ∨ a ∈ items := by
    induction items generalizing before with
    | nil =>
      cases h
      exact .inl among
    | cons item rest ih =>
      obtain ⟨passes, -, h⟩ := exists_of_bind_eq_ok h
      rcases ih _ h with earlier | later
      · cases passes with
        | false => exact .inl earlier
        | true =>
          rcases List.mem_cons.mp earlier with rfl | earlier
          · exact .inr List.mem_cons_self
          · exact .inl earlier
      · exact .inr (List.mem_cons_of_mem item later)
  obtain ⟨passed, found, h⟩ := exists_of_bind_eq_ok h
  cases h
  rcases scan items [] passed found (List.mem_reverse.mp among) with none | inside
  · cases none
  · exact inside

/-- Every failure has the property. -/
def FailsOnly (p : ε → Prop) (x : Except ε α) : Prop := ∀ e, x = .error e → p e

namespace FailsOnly

variable {p : ε → Prop}

/-- A result is no failure. -/
theorem ok (a : α) : FailsOnly p (.ok a) := by
  intro e h
  cases h

/-- A failure with the property. -/
theorem error {e : ε} (h : p e) : FailsOnly p (.error e : Except ε α) := by
  intro e' h'
  cases h'
  exact h

/-- Failures with a stronger property. -/
theorem mono {q : ε → Prop} {x : Except ε α} (weaker : ∀ e, p e → q e) (h : FailsOnly p x) :
    FailsOnly q x :=
  fun e failed => weaker e (h e failed)

/-- The failures of two steps are those of the first one, and of the second one after any result
that the first one has. -/
theorem bind_of_ok {x : Except ε α} {next : α → Except ε β} (first : FailsOnly p x)
    (second : ∀ a, x = .ok a → FailsOnly p (next a)) : FailsOnly p (x >>= next) := by
  cases x with
  | error e => exact .error (first e rfl)
  | ok a => exact second a rfl

/-- The failures of two steps are those of each. -/
theorem bind {x : Except ε α} {next : α → Except ε β} (first : FailsOnly p x)
    (second : ∀ a, FailsOnly p (next a)) : FailsOnly p (x >>= next) :=
  first.bind_of_ok fun a _ => second a

/-- A function of the result fails as the result does. -/
theorem map {x : Except ε α} (f : α → β) (h : FailsOnly p x) : FailsOnly p (x.map f) := by
  cases x with
  | error e => exact .error (h e rfl)
  | ok a => exact .ok (f a)

/-- A result fails as a function of it does. -/
theorem of_map {x : Except ε α} {f : α → β} (h : FailsOnly p (x.map f)) : FailsOnly p x := by
  cases x with
  | error e => exact .error (h e rfl)
  | ok a => exact .ok a

/-- Failures that are made of others. -/
theorem mapError {ε' : Type} {f : ε' → ε} (h : ∀ e, p (f e)) (x : Except ε' α) :
    FailsOnly p (x.mapError f) := by
  cases x with
  | error e => exact .error (h e)
  | ok a => exact .ok a

/-- The failures of a step for each of some items. -/
theorem mapM_of_mem {f : α → Except ε β} {items : List α} (h : ∀ a ∈ items, FailsOnly p (f a)) :
    FailsOnly p (items.mapM f) := by
  induction items with
  | nil => exact .ok []
  | cons a items ih =>
    rw [List.mapM_cons]
    have others := ih fun a among => h a (List.mem_cons_of_mem _ among)
    exact (h a List.mem_cons_self).bind fun b => others.bind fun bs => .ok (b :: bs)

/-- The failures of a step for each item. -/
theorem mapM {f : α → Except ε β} (h : ∀ a, FailsOnly p (f a)) (items : List α) :
    FailsOnly p (items.mapM f) :=
  mapM_of_mem fun a _ => h a

/-- The failures of steps that go through items with an accumulator, of which each step that is
made keeps an invariant. -/
theorem foldlM {inv : β → Prop} {f : β → α → Except ε β} {items : List α} {start : β}
    (h : ∀ b a, inv b → a ∈ items → FailsOnly p (f b a))
    (keeps : ∀ b a b', inv b → a ∈ items → f b a = .ok b' → inv b') (begins : inv start) :
    FailsOnly p (items.foldlM f start) := by
  induction items generalizing start with
  | nil => exact .ok start
  | cons a items ih =>
    rw [List.foldlM_cons]
    refine (h start a begins List.mem_cons_self).bind_of_ok fun b found => ?_
    exact ih (fun b a' holds among => h b a' holds (List.mem_cons_of_mem _ among))
      (fun b a' b' holds among => keeps b a' b' holds (List.mem_cons_of_mem _ among))
      (keeps start a b begins List.mem_cons_self found)

/-- The failures of steps that go through items with any accumulator. -/
theorem foldlM_of_forall {f : β → α → Except ε β} (h : ∀ b a, FailsOnly p (f b a))
    (items : List α) (start : β) : FailsOnly p (items.foldlM f start) := by
  induction items generalizing start with
  | nil => exact .ok start
  | cons a items ih =>
    rw [List.foldlM_cons]
    exact (h start a).bind fun b => ih b

/-- The failures of a test of each item. -/
theorem filterM {f : α → Except ε Bool} (h : ∀ a, FailsOnly p (f a)) (items : List α) :
    FailsOnly p (items.filterM f) := by
  have scan (items kept : List α) : FailsOnly p (items.filterAuxM f kept) := by
    induction items generalizing kept with
    | nil => exact .ok kept
    | cons a items ih => exact (h a).bind fun b => ih _
  exact (scan items []).bind fun kept => .ok kept.reverse

end FailsOnly

/-- The outcomes agree, unless the first one is the given failure. -/
def CutTo (e : ε) (x y : Except ε α) : Prop := x = .error e ∨ x = y

namespace CutTo

variable {e : ε}

/-- The same outcome. -/
theorem refl (x : Except ε α) : CutTo e x x := .inr rfl

/-- The failure that cuts off. -/
theorem cut (y : Except ε α) : CutTo e (.error e) y := .inl rfl

/-- A sequence of steps is cut off where one of its steps is. -/
theorem bind {x y : Except ε α} {next next' : α → Except ε β} (first : CutTo e x y)
    (second : ∀ a, CutTo e (next a) (next' a)) : CutTo e (x >>= next) (y >>= next') := by
  rcases first with rfl | rfl
  · exact .cut _
  · cases x with
    | error e' => exact .refl _
    | ok a => exact second a

/-- A function of the result is cut off where the result is. -/
theorem map {x y : Except ε α} (f : α → β) (h : CutTo e x y) : CutTo e (x.map f) (y.map f) := by
  rcases h with rfl | rfl
  · exact .cut _
  · exact .refl _

/-- A step for each item is cut off where the step for some item is. -/
theorem mapM {f g : α → Except ε β} (h : ∀ a, CutTo e (f a) (g a)) (items : List α) :
    CutTo e (items.mapM f) (items.mapM g) := by
  induction items with
  | nil => exact .refl _
  | cons a items ih =>
    rw [List.mapM_cons, List.mapM_cons]
    exact (h a).bind fun b => ih.bind fun bs => .refl _

end CutTo

end Stencil.Outcome
