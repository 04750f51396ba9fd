import FixedExtract.Value.Basic
/-!
# Documents

What is written as YAML: text, integers, lists, and maps with texts as keys.
-/

namespace FixedExtract.Yaml

inductive Document where
  | text (text : Text)
  | int (n : Int)
  | list (items : List Document)
  | map (entries : List (Text × Document))
  deriving Repr, Inhabited

namespace Document

instance : Coe Text Document := ⟨Document.text⟩

mutual

/-- The document as a value. -/
def toValue : Document → Value
  | .text t => .text t
  | .int n => .int n
  | .list items => .list (itemValues items)
  | .map entries => .map (entryValues entries)

def itemValues : List Document → List Value
  | [] => []
  | item :: rest => item.toValue :: itemValues rest

def entryValues : List (Text × Document) → List (Value × Value)
  | [] => []
  | (key, item) :: rest => (.text key, item.toValue) :: entryValues rest

end

end Document
end FixedExtract.Yaml
