import FixedExtract.Layout.Basic
import FixedExtract.Proofs.Traversal
/-!
# Parts of a layout

The functions that make the parts of a layout of unchecked data succeed exactly with the part that has
these data. So every part is made again of its own data, and what is made has the data it was made of.
-/

namespace FixedExtract.Layout

/-! ## Names that are looked up -/

namespace NonBlank

theorem make?_eq_some_iff {text : Text} {name : NonBlank} :
    make? text = some name ↔ name.text = text := by
  unfold make?
  constructor
  · intro h
    split at h
    · cases h
      rfl
    · cases h
  · rintro rfl
    rw [dif_pos name.nonBlank]

/-- Texts that are not blank are the texts of names. -/
theorem exists_map_text {texts : List Text} (h : ∀ text ∈ texts, Text.isBlank text = false) :
    ∃ names : List NonBlank, texts = names.map NonBlank.text := by
  refine ⟨texts.pmap NonBlank.mk h, ?_⟩
  rw [List.map_pmap, List.pmap_eq_map, List.map_id']

theorem mapM_make?_eq_some_iff {texts : List Text} {names : List NonBlank} :
    texts.mapM make? = some names ↔ texts = names.map NonBlank.text := by
  induction texts generalizing names with
  | nil =>
    rw [List.mapM_nil, eq_comm (a := ([] : List Text)), List.map_eq_nil_iff]
    exact ⟨fun h => (Option.some.inj h).symm, fun h => congrArg some h.symm⟩
  | cons text rest ih =>
    simp only [List.mapM_cons, Option.bind_eq_bind, Option.bind_eq_some_iff, Option.pure_def,
      Option.some.injEq, make?_eq_some_iff, ih]
    constructor
    · rintro ⟨name, rfl, names, rfl, rfl⟩
      rfl
    · intro h
      cases names with
      | nil => cases h
      | cons name names =>
        rw [List.map_cons, List.cons.injEq] at h
        exact ⟨name, h.1.symm, names, h.2, rfl⟩

end NonBlank

/-! ## Conditions and transformations -/

theorem Condition.make_eq_ok_iff {ifExpr value : Text} {elseIfs : List ElseIf} {elseExpr : Option Text}
    {condition : Condition} :
    make ifExpr value elseIfs elseExpr = .ok condition ↔
      condition.ifExpr.text = ifExpr ∧ condition.value = value ∧ condition.elseIfs = elseIfs ∧
        condition.elseExpr = elseExpr := by
  obtain ⟨name, _, _, _⟩ := condition
  rw [← NonBlank.make?_eq_some_iff, make]
  cases NonBlank.make? ifExpr with
  | none => simp
  | some made =>
    simp only [Except.ok.injEq, Condition.mk.injEq, Option.some.injEq]
    exact and_congr_right fun _ => ⟨fun h => ⟨h.1.symm, h.2.1.symm, h.2.2.symm⟩,
      fun h => ⟨h.1.symm, h.2.1.symm, h.2.2.symm⟩⟩

namespace Transformation

theorem makeSource_eq_ok_iff {field : Text} {transformation : Transformation} :
    makeSource field = .ok transformation ↔
      ∃ name : NonBlank, name.text = field ∧ transformation = .source name := by
  simp only [← NonBlank.make?_eq_some_iff, makeSource]
  cases NonBlank.make? field with
  | none => simp
  | some name => simp [eq_comm]

theorem makeComposite_eq_ok_iff {texts : List Text} {delimiter : Text}
    {operation : CompositeOperation} {transformation : Transformation} :
    makeComposite texts delimiter operation = .ok transformation ↔
      ∃ sources, ∃ nonEmpty : sources ≠ [], texts = sources.map NonBlank.text ∧
        transformation = .composite sources delimiter operation nonEmpty := by
  simp only [← NonBlank.mapM_make?_eq_some_iff, makeComposite]
  by_cases empty : texts = []
  · subst empty
    simp [eq_comm]
  · rw [if_neg (by simpa using empty)]
    cases hm : texts.mapM NonBlank.make? with
    | none => simp
    | some sources =>
      have nonEmpty : sources ≠ [] := by
        rintro rfl
        exact empty (NonBlank.mapM_make?_eq_some_iff.1 hm)
      simp [nonEmpty, eq_comm]

theorem makeConditional_eq_ok_iff {conditions : List Condition} {transformation : Transformation} :
    makeConditional conditions = .ok transformation ↔
      ∃ nonEmpty : conditions ≠ [], transformation = .conditional conditions nonEmpty := by
  unfold makeConditional
  split
  · simp [*, eq_comm]
  · simp [*]

end Transformation

/-! ## Mappings -/

theorem Mapping.make_eq_ok_iff {name : Text} {position length : Int} {transformation : Transformation}
    {pad : PadSide} {padChar dataType : Text} {defaultValue : Option Text} {m : Mapping} :
    make name position length transformation pad padChar dataType defaultValue = .ok m ↔
      m.name = name ∧ (m.position : Int) = position ∧ (m.length : Int) = length ∧
        m.transformation = transformation ∧ m.pad = pad ∧ [m.padChar] = padChar ∧
        m.dataType = dataType ∧ m.defaultValue = defaultValue := by
  have positive := m.position_pos
  have wide := m.length_pos
  constructor
  · intro h
    unfold make at h
    split at h
    · split at h
      · split at h
        · cases h
          refine ⟨rfl, ?_, ?_, rfl, rfl, rfl, rfl, rfl⟩
          · show (position.toNat : Int) = position
            omega
          · show (length.toNat : Int) = length
            omega
        · cases h
      · cases h
    · cases h
  · rintro ⟨rfl, rfl, rfl, rfl, rfl, rfl, rfl, rfl⟩
    rw [make, dif_pos (by omega), dif_pos (by omega)]
    rfl

end FixedExtract.Layout
