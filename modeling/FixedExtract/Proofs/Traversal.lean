import Mathlib.Data.List.Forall2
/-!
# Traversals that may fail

A traversal of a list succeeds when it succeeds on every element, and its results then stand beside the
elements in order. Longer computations are taken apart at their binds.
-/

namespace FixedExtract

section
variable {ε α β γ : Type}

/-- A sequence of two steps succeeds when the first does and the second does on its result. -/
theorem bind_eq_ok_iff {x : Except ε α} {f : α → Except ε β} {b : β} :
    x >>= f = .ok b ↔ ∃ a, x = .ok a ∧ f a = .ok b := by
  cases x with
  | ok a =>
    constructor
    · intro h
      exact ⟨a, rfl, h⟩
    · rintro ⟨a', ha, hb⟩
      cases ha
      exact hb
  | error e =>
    constructor
    · intro h
      cases h
    · rintro ⟨a, ha, -⟩
      cases ha

/-- A sequence of two steps fails when the first does, or the second does on its result. -/
theorem bind_eq_error_iff {x : Except ε α} {f : α → Except ε β} {e : ε} :
    x >>= f = .error e ↔ x = .error e ∨ ∃ a, x = .ok a ∧ f a = .error e := by
  cases x with
  | ok a =>
    constructor
    · intro h
      exact .inr ⟨a, rfl, h⟩
    · rintro (⟨⟨⟩⟩ | ⟨_, ⟨⟩, h⟩)
      exact h
  | error e' =>
    constructor
    · rintro ⟨⟩
      exact .inl rfl
    · rintro (⟨⟨⟩⟩ | ⟨_, ⟨⟩, -⟩)
      rfl

theorem ok_bind (a : α) (f : α → Except ε β) : Except.ok a >>= f = f a := rfl

theorem map_eq_ok_iff {x : Except ε α} {f : α → β} {b : β} :
    x.map f = .ok b ↔ ∃ a, x = .ok a ∧ f a = b := by
  cases x with
  | ok a => simp [Except.map]
  | error e => simp [Except.map]

theorem mapError_eq_ok_iff {ε' : Type} {x : Except ε α} {f : ε → ε'} {a : α} : x.mapError f = .ok a ↔ x = .ok a := by
  cases x with
  | ok b => simp [Except.mapError]
  | error e => simp [Except.mapError]

theorem mapError_eq_error_iff {ε' : Type} {x : Except ε α} {f : ε → ε'} {e' : ε'} :
    x.mapError f = .error e' ↔ ∃ e, x = .error e ∧ f e = e' := by
  cases x with
  | ok b => simp [Except.mapError]
  | error e => simp [Except.mapError]

/-- A traversal succeeds exactly with results that the elements have one by one. -/
theorem mapM_eq_ok_iff {f : α → Except ε β} {list : List α} {results : List β} :
    list.mapM f = .ok results ↔ List.Forall₂ (fun a b => f a = .ok b) list results := by
  induction list generalizing results with
  | nil =>
    rw [List.mapM_nil, List.forall₂_nil_left_iff]
    constructor
    · intro h
      cases h
      rfl
    · rintro rfl
      rfl
  | cons a rest ih =>
    rw [List.mapM_cons, bind_eq_ok_iff, List.forall₂_cons_left_iff]
    constructor
    · rintro ⟨b, hb, h⟩
      rw [bind_eq_ok_iff] at h
      obtain ⟨others, ho, h⟩ := h
      cases h
      exact ⟨b, others, hb, ih.1 ho, rfl⟩
    · rintro ⟨b, others, hb, ho, rfl⟩
      refine ⟨b, hb, ?_⟩
      rw [bind_eq_ok_iff]
      exact ⟨others, ih.2 ho, rfl⟩

/-- A traversal fails exactly at the first element that it fails on. -/
theorem mapM_eq_error_iff {f : α → Except ε β} {list : List α} {e : ε} :
    list.mapM f = .error e ↔
      ∃ before a after, list = before ++ a :: after ∧ (∀ b ∈ before, ∃ r, f b = .ok r) ∧ f a = .error e := by
  induction list with
  | nil =>
    refine iff_of_false nofun ?_
    rintro ⟨before, a, after, nothing, -⟩
    exact absurd nothing.symm (by simp)
  | cons first rest ih =>
    rw [List.mapM_cons]
    cases result : f first with
    | error e' =>
      constructor
      · rintro ⟨⟩
        exact ⟨[], first, rest, rfl, List.forall_mem_nil _, result⟩
      · rintro ⟨before, a, after, cut, good, failed⟩
        cases before with
        | nil =>
          cases cut
          rw [result] at failed
          rw [failed]
          rfl
        | cons b others =>
          cases cut
          obtain ⟨r, hr⟩ := good first List.mem_cons_self
          rw [result] at hr
          cases hr
    | ok r =>
      have step : (Except.ok r >>= fun r => List.mapM f rest >>= fun others => pure (r :: others)) = Except.error e ↔
          List.mapM f rest = .error e := by
        rw [ok_bind]
        cases List.mapM f rest with
        | ok others => exact iff_of_false nofun nofun
        | error e' => exact Iff.rfl
      rw [step, ih]
      constructor
      · rintro ⟨before, a, after, rfl, good, failed⟩
        exact ⟨first :: before, a, after, rfl, List.forall_mem_cons.2 ⟨⟨r, result⟩, good⟩, failed⟩
      · rintro ⟨before, a, after, cut, good, failed⟩
        cases before with
        | nil =>
          cases cut
          rw [result] at failed
          cases failed
        | cons b others =>
          cases cut
          exact ⟨others, a, after, rfl, (List.forall_mem_cons.1 good).2, failed⟩

/-- When every element has a partner, partners can be put beside all of them. -/
theorem exists_forall₂ {R : α → β → Prop} {list : List α} (h : ∀ a ∈ list, ∃ b, R a b) :
    ∃ others, List.Forall₂ R list others := by
  induction list with
  | nil => exact ⟨[], .nil⟩
  | cons a rest ih =>
    obtain ⟨b, hb⟩ := h a List.mem_cons_self
    obtain ⟨others, ho⟩ := ih fun c hc => h c (List.mem_cons_of_mem a hc)
    exact ⟨b :: others, .cons hb ho⟩

end

section
variable {α β : Type} {R : α → β → Prop} {list : List α} {others : List β}

/-- Every element has a partner among the elements beside it. -/
theorem exists_of_forall₂_left (h : List.Forall₂ R list others) :
    ∀ a ∈ list, ∃ b ∈ others, R a b := by
  induction h with
  | nil => simp
  | cons hab _ ih =>
    intro a ha
    rcases List.mem_cons.1 ha with rfl | ha
    · exact ⟨_, List.mem_cons_self, hab⟩
    · obtain ⟨b, hb, hr⟩ := ih a ha
      exact ⟨b, List.mem_cons_of_mem _ hb, hr⟩

theorem exists_of_forall₂_right (h : List.Forall₂ R list others) :
    ∀ b ∈ others, ∃ a ∈ list, R a b :=
  exists_of_forall₂_left h.flip

/-- What holds of partners may make use of where they stand. -/
theorem forall₂_imp_of_mem {S : α → β → Prop} (h : List.Forall₂ R list others)
    (imp : ∀ a ∈ list, ∀ b ∈ others, R a b → S a b) : List.Forall₂ S list others := by
  induction h with
  | nil => exact .nil
  | cons hab _ ih =>
    refine .cons (imp _ List.mem_cons_self _ List.mem_cons_self hab) (ih ?_)
    intro a ha b hb
    exact imp a (List.mem_cons_of_mem _ ha) b (List.mem_cons_of_mem _ hb)

/-- Partners of the same elements are the images of each other, when that holds of every two. -/
theorem eq_map_of_forall₂ {γ : Type} {S : α → γ → Prop} {f : γ → β} {images : List γ}
    (h : List.Forall₂ R list others) (h' : List.Forall₂ S list images)
    (same : ∀ a b, ∀ c ∈ images, R a b → S a c → b = f c) : others = images.map f := by
  induction h generalizing images with
  | nil =>
    cases h'
    rfl
  | cons hab _ ih =>
    cases h' with
    | cons hac rest =>
      have first := same _ _ _ List.mem_cons_self hab hac
      rw [List.map_cons, first, ih rest fun a b c hc => same a b c (List.mem_cons_of_mem _ hc)]

/-- An element in the middle has a partner. -/
theorem exists_of_forall₂_middle {before after : List β} {b : β}
    (h : List.Forall₂ R list (before ++ b :: after)) : ∃ a, R a b := by
  obtain ⟨a, -, hr⟩ := exists_of_forall₂_right h b (by simp)
  exact ⟨a, hr⟩

/-- An element in the middle may be replaced by one that has the same partners. -/
theorem forall₂_replace {before after : List β} {b c : β}
    (h : List.Forall₂ R list (before ++ b :: after)) (imp : ∀ a, R a b → R a c) :
    List.Forall₂ R list (before ++ c :: after) := by
  induction before generalizing list with
  | nil =>
    obtain ⟨a, rest, hab, hrest, rfl⟩ := List.forall₂_cons_right_iff.1 h
    exact .cons (imp a hab) hrest
  | cons first before ih =>
    obtain ⟨a, rest, hab, hrest, rfl⟩ := List.forall₂_cons_right_iff.1 h
    exact .cons hab (ih hrest)

/-- What is the same for an element and its partner is the same list for both. -/
theorem map_eq_map_of_forall₂ {γ : Type} {f : α → γ} {g : β → γ}
    (h : List.Forall₂ R list others) (same : ∀ a b, R a b → f a = g b) :
    list.map f = others.map g := by
  induction h with
  | nil => rfl
  | cons hab _ ih => rw [List.map_cons, List.map_cons, same _ _ hab, ih]

end

/-- When every member of a set is found by its own name, a word finds the member whose name it is. -/
theorem find?_name_eq_some_iff {α ν : Type} [BEq ν] [LawfulBEq ν] {name : α → ν} {all : List α}
    {word : ν} {a : α} (known : ∀ a, all.find? (fun b => name b == name a) = some a) :
    all.find? (fun b => name b == word) = some a ↔ name a = word := by
  constructor
  · intro h
    simpa using List.find?_some h
  · rintro rfl
    exact known a

end FixedExtract
