/-!
Closed sets of words: each value of a type has one word for it on the wire and in the store.
-/
namespace PrepaidLedger

class Vocabulary (α : Type) where
  all : List α
  word : α → String

namespace Vocabulary

variable {α : Type} [Vocabulary α]

def ofWord? (s : String) : Option α := (all : List α).find? (word · = s)

end Vocabulary

class StoredVocabulary (α : Type) extends Vocabulary α where
  subject : String

def StoredVocabulary.read {α : Type} [StoredVocabulary α] (s : String) : Except String α :=
  match Vocabulary.ofWord? s with
  | some a => .ok a
  | none => .error ("unknown " ++ StoredVocabulary.subject α ++ " '" ++ s ++ "'")

end PrepaidLedger
