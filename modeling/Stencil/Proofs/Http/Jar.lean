import Stencil.Http.Jar

/-!
# Where cookies come from and where they go

Every cookie of a jar was asked for by a response that the jar received. What is sent from a jar for
a site are exactly those of its cookies that go to the site and are not over.
-/

namespace Stencil.Http

open List (Perm)

namespace Jar

variable {c other : Cookie}

/-- What a key leads to after a change is the change of what it led to before. -/
theorem of_mem_alter {α : Type} {key : List Char} {change : List α → List α}
    {entries : List (List Char × List α)} {entry : List Char × List α}
    (among : entry ∈ alter key change entries) :
    entry ∈ entries ∨ ∃ old, entry = (key, change old) ∧ (old = [] ∨ (key, old) ∈ entries) := by
  induction entries with
  | nil => exact .inr ⟨[], List.mem_singleton.mp among, .inl rfl⟩
  | cons first rest ih =>
    rw [alter] at among
    split at among
    · next same =>
      rcases List.mem_cons.mp among with rfl | later
      · exact .inr ⟨first.2, rfl, .inr (same ▸ List.mem_cons_self)⟩
      · exact .inl (List.mem_cons_of_mem first later)
    · rcases List.mem_cons.mp among with rfl | later
      · exact .inl List.mem_cons_self
      · rcases ih later with before | ⟨old, same, origin⟩
        · exact .inl (List.mem_cons_of_mem first before)
        · exact .inr ⟨old, same, origin.imp_right (List.mem_cons_of_mem first)⟩

/-- Putting a cookie among others adds no other one. -/
theorem of_mem_put {cookies : List Cookie} (among : other ∈ put c cookies) :
    other = c ∨ other ∈ cookies := by
  induction cookies with
  | nil => exact .inl (List.mem_singleton.mp among)
  | cons first rest ih =>
    rw [put] at among
    split at among
    · exact (List.mem_cons.mp among).imp_right (List.mem_cons_of_mem first)
    · rcases List.mem_cons.mp among with rfl | later
      · exact .inr List.mem_cons_self
      · exact (ih later).imp_right (List.mem_cons_of_mem first)

/-- The cookies of a jar are those of the paths of its domains. -/
theorem mem_cookies_iff {jar : Jar} :
    c ∈ jar.cookies ↔ ∃ domain ∈ jar, ∃ path ∈ domain.2, c ∈ path.2 := by
  simp only [cookies, List.mem_flatMap]

/-- Keeping a cookie adds no other one. -/
theorem of_mem_cookies_keep {jar : Jar} (among : other ∈ (keep jar c).cookies) :
    other = c ∨ other ∈ jar.cookies := by
  obtain ⟨domain, inJar, path, inDomain, inPath⟩ := mem_cookies_iff.mp among
  rcases of_mem_alter inJar with old | ⟨paths, rfl, origin⟩
  · exact .inr (mem_cookies_iff.mpr ⟨domain, old, path, inDomain, inPath⟩)
  -- the domain is the one of the cookie, and what it had before is `paths`
  have before {path : List Char × List Cookie} (inPaths : path ∈ paths) (inPath : other ∈ path.2) :
      other ∈ jar.cookies := by
    rcases origin with rfl | known
    · cases inPaths
    · exact mem_cookies_iff.mpr ⟨_, known, path, inPaths, inPath⟩
  rcases of_mem_alter inDomain with old | ⟨cookies, rfl, origin'⟩
  · exact .inr (before old inPath)
  · rcases of_mem_put inPath with same | old
    · exact .inl same
    · rcases origin' with rfl | known
      · cases old
      · exact .inr (before known old)

/-- Forgetting a cookie adds none. -/
theorem of_mem_cookies_forget {jar : Jar} {domain path name : List Char}
    (among : c ∈ (forget jar domain path name).cookies) : c ∈ jar.cookies := by
  obtain ⟨entry, inJar, sub, inDomain, inPath⟩ := mem_cookies_iff.mp among
  obtain ⟨⟨d, paths⟩, old, rfl⟩ := List.mem_map.mp inJar
  dsimp only at inDomain
  split at inDomain
  · exact mem_cookies_iff.mpr ⟨_, old, sub, inDomain, inPath⟩
  · obtain ⟨⟨p, cookies⟩, old', rfl⟩ := List.mem_map.mp inDomain
    dsimp only at inPath
    split at inPath
    · exact mem_cookies_iff.mpr ⟨_, old, _, old', inPath⟩
    · exact mem_cookies_iff.mpr ⟨_, old, _, old', (List.mem_filter.mp inPath).1⟩

/-- The cookies of a jar after wishes that are met one after the other, where each one adds at most
the cookie that it is a wish for. -/
theorem of_mem_cookies_foldl {step : Jar → CookieWish → Jar} {jar : Jar}
    {wishes : List CookieWish}
    (adds : ∀ jar wish, c ∈ (step jar wish).cookies → c ∈ jar.cookies ∨ wish = .keep c)
    (among : c ∈ (wishes.foldl step jar).cookies) : c ∈ jar.cookies ∨ .keep c ∈ wishes := by
  induction wishes generalizing jar with
  | nil => exact .inl among
  | cons wish rest ih =>
    rcases ih among with now | later
    · rcases adds jar wish now with old | rfl
      · exact .inl old
      · exact .inr List.mem_cons_self
    · exact .inr (List.mem_cons_of_mem wish later)

/-- A jar after wishes has cookies that it had before and cookies that are wished for. -/
theorem of_mem_cookies_grant {jar : Jar} {wishes : List CookieWish}
    (among : c ∈ (grant jar wishes).cookies) : c ∈ jar.cookies ∨ .keep c ∈ wishes := by
  unfold grant at among
  refine (of_mem_cookies_foldl ?_ among).elim (fun left => of_mem_cookies_foldl ?_ left) .inr
  · intro jar wish now
    cases wish with
    | keep kept =>
      rcases of_mem_cookies_keep now with rfl | old
      · exact .inr rfl
      · exact .inl old
    | forget domain path name => exact .inl now
  · intro jar wish now
    cases wish with
    | keep kept => exact .inl now
    | forget domain path name => exact .inl (of_mem_cookies_forget now)

/-- The lines of a response that set cookies. -/
def settings (lines : Lines) : List (List Char) :=
  (lines.filter fun line => Lines.sameName line.1 "set-cookie").map fun line => line.2.toList

/-- A jar after a response has cookies that it had before and cookies that the response sets. -/
theorem of_mem_cookies_receive {jar : Jar} {now : Present} {origin : CookieSite} {lines : Lines}
    (among : c ∈ (receive jar now origin lines).cookies) :
    c ∈ jar.cookies ∨ ∃ wishes,
      CookieWish.ofLines? now origin (settings lines) = some wishes ∧ .keep c ∈ wishes := by
  rw [receive] at among
  split at among
  · next wishes found =>
    exact (of_mem_cookies_grant among).imp_right fun wished => ⟨wishes, found, wished⟩
  · exact .inl among

/-- Putting a cookie in its place among others loses nothing and adds nothing. -/
theorem insertLonger_perm (c : Cookie) (sorted : List Cookie) :
    Perm (insertLonger c sorted) (c :: sorted) := by
  induction sorted with
  | nil => exact .refl _
  | cons first rest ih =>
    rw [insertLonger]
    split
    · exact .refl _
    · exact (ih.cons first).trans (.swap c first rest)

/-- The cookies that are sent are put in order one after the other. -/
theorem foldl_insertLonger_perm (cookies sorted : List Cookie) :
    Perm (cookies.foldl (fun sorted c => insertLonger c sorted) sorted) (cookies ++ sorted) := by
  induction cookies generalizing sorted with
  | nil => exact .refl _
  | cons c rest ih =>
    refine (ih (insertLonger c sorted)).trans ?_
    refine ((insertLonger_perm c sorted).append_left rest).trans ?_
    exact List.perm_middle

/-- The value of the line that sends cookies. -/
def sending (cookies : List Cookie) : String :=
  String.ofList (List.intercalate [';', ' '] (cookies.map Cookie.chars))

/-- The line that a jar sends for a site has the cookies of the jar that go there. -/
theorem exists_perm_of_line? {jar : Jar} {now : Int} {target : CookieSite} {line : String}
    (h : jar.line? now target = some line) :
    ∃ cookies, cookies ≠ [] ∧ Perm cookies (jar.cookies.filter fun c => c.goesTo now target) ∧
      line = sending cookies := by
  rw [line?] at h
  have perm := foldl_insertLonger_perm (jar.cookies.filter fun c => c.goesTo now target) []
  rw [List.append_nil] at perm
  split at h
  · cases h
  · next filled =>
    cases h
    exact ⟨_, filled, perm, rfl⟩

end Jar

end Stencil.Http
