import Mathlib.Data.List.Basic
/-!
# What computations fail with, and what they keep

A computation that may fail is put together of parts, and so are the reasons for which it fails. One with a state
keeps what each of its parts keeps.
-/

namespace FixedExtract

variable {ε α β σ : Type} {P : ε → Prop}

/-- The computation fails for such reasons only. -/
def FailsWith (P : ε → Prop) (x : Except ε α) : Prop := ∀ e, x = .error e → P e

namespace FailsWith

theorem ok (a : α) : FailsWith P (.ok a) := nofun

theorem error {e : ε} (h : P e) : FailsWith P (.error e : Except ε α) := by
  rintro _ ⟨⟩
  exact h

/-- What comes next knows the result. -/
theorem bind_of_ok {x : Except ε α} {f : α → Except ε β} (hx : FailsWith P x)
    (hf : ∀ a, x = .ok a → FailsWith P (f a)) : FailsWith P (x >>= f) := by
  cases x with
  | error e => exact error (hx e rfl)
  | ok a => exact hf a rfl

theorem bind {x : Except ε α} {f : α → Except ε β} (hx : FailsWith P x) (hf : ∀ a, FailsWith P (f a)) :
    FailsWith P (x >>= f) :=
  bind_of_ok hx fun a _ => hf a

theorem map {x : Except ε α} (hx : FailsWith P x) (f : α → β) : FailsWith P (x.map f) := by
  cases x with
  | error e => exact error (hx e rfl)
  | ok a => exact ok (f a)

theorem ite {c : Prop} [Decidable c] {x y : Except ε α} (hx : FailsWith P x) (hy : FailsWith P y) :
    FailsWith P (if c then x else y) := by
  split
  · exact hx
  · exact hy

theorem mono {Q : ε → Prop} {x : Except ε α} (hx : FailsWith P x) (h : ∀ e, P e → Q e) : FailsWith Q x :=
  fun e same => h e (hx e same)

end FailsWith

/-- Where whatever is told is of the right kind, a computation ends well exactly when of each of its faults something is
told. -/
theorem ok_or_told_iff {φ υ : Type} {Q : φ → Prop} {x : Except ε α} {tell : ε → Except υ φ}
    (kind : ∀ e f, x = .error e → tell e = .ok f → Q f) :
    ((∃ a, x = .ok a) ∨ ∃ e f, x = .error e ∧ tell e = .ok f ∧ Q f) ↔ FailsWith (fun e => ∃ f, tell e = .ok f) x := by
  cases x with
  | ok a => exact iff_of_true (.inl ⟨a, rfl⟩) (.ok a)
  | error e =>
    constructor
    · rintro (⟨a, ⟨⟩⟩ | ⟨_, f, ⟨⟩, told, -⟩)
      exact .error ⟨f, told⟩
    · intro fails
      obtain ⟨f, told⟩ := fails e rfl
      exact .inr ⟨e, f, rfl, told, kind e f rfl told⟩

/-- Started in a state of one kind, the computation ends with a result and a state of the other, or it fails for such
reasons. -/
def Triple (P : ε → Prop) (I : σ → Prop) (m : StateT σ (Except ε) α) (J : α → σ → Prop) : Prop :=
  ∀ s, I s → FailsWith P (m.run s) ∧ ∀ a s', m.run s = .ok (a, s') → J a s'

namespace Triple

variable {I I' : σ → Prop} {J J' : α → σ → Prop} {K : β → σ → Prop} {m : StateT σ (Except ε) α}
  {f : α → StateT σ (Except ε) β}

theorem pure {a : α} (h : ∀ s, I s → J a s) : Triple P I (Pure.pure a) J := by
  refine fun s hs => ⟨.ok _, ?_⟩
  rintro _ _ ⟨⟩
  exact h s hs

theorem throw {e : ε} (h : P e) : Triple P I (MonadExcept.throw e : StateT σ (Except ε) α) J :=
  fun _ _ => ⟨.error h, nofun⟩

theorem bind (first : Triple P I m J) (next : ∀ a, Triple P (J a) (f a) K) : Triple P I (m >>= f) K := by
  intro s hs
  obtain ⟨fails, ends⟩ := first s hs
  rw [StateT.run_bind]
  cases run : m.run s with
  | error e => exact ⟨.error (fails e run), nofun⟩
  | ok part => exact next part.1 part.2 (ends _ _ run)

theorem mono (h : Triple P I m J) (before : ∀ s, I' s → I s) (after : ∀ a s, J a s → J' a s) : Triple P I' m J' :=
  fun s hs => ⟨(h s (before s hs)).1, fun a s' run => after a s' ((h s (before s hs)).2 a s' run)⟩

theorem ite {c : Prop} [Decidable c] {other : StateT σ (Except ε) α} (yes : Triple P I m J) (no : Triple P I other J) :
    Triple P I (if c then m else other) J := by
  split
  · exact yes
  · exact no

/-- What comes next knows the state. -/
theorem get_bind {f : σ → StateT σ (Except ε) β} (next : ∀ s, I s → Triple P (· = s) (f s) K) :
    Triple P I (get >>= f) K :=
  fun s hs => next s hs s rfl

theorem set {s' : σ} {J : PUnit → σ → Prop} (h : ∀ s, I s → J ⟨⟩ s') :
    Triple P I (set s' : StateT σ (Except ε) PUnit) J := by
  refine fun s hs => ⟨.ok _, ?_⟩
  rintro _ _ ⟨⟩
  exact h s hs

theorem modifyGet {g : σ → α × σ} (h : ∀ s, I s → J (g s).1 (g s).2) :
    Triple P I (modifyGet g : StateT σ (Except ε) α) J := by
  refine fun s hs => ⟨.ok _, fun a s' run => ?_⟩
  have same : g s = (a, s') := Except.ok.inj run
  have kept := h s hs
  rwa [same] at kept

theorem modify {g : σ → σ} {J : PUnit → σ → Prop} (h : ∀ s, I s → J ⟨⟩ (g s)) :
    Triple P I (modify g : StateT σ (Except ε) PUnit) J :=
  modifyGet h

theorem lift {x : Except ε α} (fails : FailsWith P x) (h : ∀ a, x = .ok a → ∀ s, I s → J a s) :
    Triple P I (liftM x : StateT σ (Except ε) α) J := by
  intro s hs
  cases x with
  | error e => exact ⟨.error (fails e rfl), nofun⟩
  | ok a =>
    refine ⟨.ok _, ?_⟩
    rintro _ _ ⟨⟩
    exact h a rfl s hs

theorem mapM {g : α → StateT σ (Except ε) β} {list : List α} (each : ∀ a ∈ list, Triple P I (g a) fun _ => I) :
    Triple P I (list.mapM g) fun _ => I := by
  induction list with
  | nil => exact pure fun _ hs => hs
  | cons a rest ih =>
    obtain ⟨first, others⟩ := List.forall_mem_cons.1 each
    rw [List.mapM_cons]
    exact bind first fun _ => bind (ih others) fun _ => pure fun _ hs => hs

theorem forM {g : α → StateT σ (Except ε) PUnit} {list : List α} (each : ∀ a ∈ list, Triple P I (g a) fun _ => I) :
    Triple P I (list.forM g) fun _ => I := by
  induction list with
  | nil => exact pure fun _ hs => hs
  | cons a rest ih =>
    obtain ⟨first, others⟩ := List.forall_mem_cons.1 each
    exact bind first fun _ => ih others

end Triple

end FixedExtract
