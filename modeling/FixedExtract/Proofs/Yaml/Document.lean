import FixedExtract.Yaml.Document
import Mathlib.Data.List.Basic
/-!
# Documents as values

The value of a document has the same items and the same entries, in the same order. So a key is looked up
in the value with the result that it has in the document.
-/

namespace FixedExtract

/-- A map holds itself nowhere, so it is opened already. -/
@[simp] theorem Value.opened_map (entries : Entries) : (Value.map entries).opened = .map entries := rfl

namespace Yaml.Document

theorem entryValues_eq_map (entries : List (Text × Document)) :
    entryValues entries = entries.map fun entry => (.text entry.1, entry.2.toValue) := by
  induction entries with
  | nil => rfl
  | cons entry rest ih => rw [entryValues, ih, List.map_cons]

theorem itemValues_eq_map (items : List Document) : itemValues items = items.map toValue := by
  induction items with
  | nil => rfl
  | cons item rest ih => rw [itemValues, ih, List.map_cons]

/-- A key has the value of the document that it has. -/
theorem get?_entryValues (key : Text) (entries : List (Text × Document)) :
    Entries.get? key (entryValues entries) = (entries.lookup key).map toValue := by
  induction entries with
  | nil => rfl
  | cons entry rest ih =>
    obtain ⟨name, item⟩ := entry
    rw [entryValues, Entries.get?, Value.isText, List.lookup_cons, ih, BEq.comm]
    cases key == name <;> rfl

/-- Dropping a key from the value is dropping it from the document. -/
theorem without_entryValues (key : Text) (entries : List (Text × Document)) :
    Entries.without key (entryValues entries) =
      entryValues (entries.filter fun entry => !entry.1 == key) := by
  rw [entryValues_eq_map, entryValues_eq_map, Entries.without, List.filter_map]
  rfl

/-- A new key comes last. -/
theorem put_entryValues {key : Text} (document : Document) {entries : List (Text × Document)}
    (new : ∀ entry ∈ entries, entry.1 ≠ key) :
    Entries.put key document.toValue (entryValues entries) =
      entryValues (entries ++ [(key, document)]) := by
  induction entries with
  | nil => rfl
  | cons entry rest ih =>
    have other : (entry.1 == key) = false :=
      beq_eq_false_iff_ne.2 (new entry List.mem_cons_self)
    have rest_put := ih fun e he => new e (List.mem_cons_of_mem entry he)
    rw [entryValues, Entries.put, Value.isText, other, rest_put]
    rfl

/-! ## Recognizing the value of a document -/

mutual

/-- Is the value that of the document? -/
def isValue : Document → Value → Bool
  | .text t, .text s => t == s
  | .int n, .int k => n == k
  | .list items, .list values => areItems items values
  | .map entries, .map values => areEntries entries values
  | _, _ => false

def areItems : List Document → List Value → Bool
  | [], [] => true
  | item :: rest, value :: values => item.isValue value && areItems rest values
  | _, _ => false

def areEntries : List (Text × Document) → List (Value × Value) → Bool
  | [], [] => true
  | (key, item) :: rest, (.text k, value) :: values =>
    key == k && item.isValue value && areEntries rest values
  | _, _ => false

end

mutual

theorem toValue_eq_of_isValue {document : Document} {value : Value}
    (h : document.isValue value = true) : document.toValue = value := by
  match document, value with
  | .text t, .text s =>
    rw [toValue, beq_iff_eq.1 (h : (t == s) = true)]
  | .int n, .int k =>
    rw [toValue, beq_iff_eq.1 (h : (n == k) = true)]
  | .list items, .list values =>
    rw [toValue, itemValues_eq_of_areItems (h : areItems items values = true)]
  | .map entries, .map values =>
    rw [toValue, entryValues_eq_of_areEntries (h : areEntries entries values = true)]

theorem itemValues_eq_of_areItems {items : List Document} {values : List Value}
    (h : areItems items values = true) : itemValues items = values := by
  match items, values with
  | [], [] => rfl
  | item :: rest, value :: values =>
    rw [areItems, Bool.and_eq_true] at h
    rw [itemValues, toValue_eq_of_isValue h.1, itemValues_eq_of_areItems h.2]

theorem entryValues_eq_of_areEntries {entries : List (Text × Document)}
    {values : List (Value × Value)} (h : areEntries entries values = true) :
    entryValues entries = values := by
  match entries, values with
  | [], [] => rfl
  | (key, item) :: rest, (.text k, value) :: values =>
    rw [areEntries, Bool.and_eq_true, Bool.and_eq_true, beq_iff_eq] at h
    rw [entryValues, h.1.1, toValue_eq_of_isValue h.1.2, entryValues_eq_of_areEntries h.2]

end

end Yaml.Document
end FixedExtract
