/-!
Texts cut at a separator.
-/
namespace PrepaidLedger.Text

def splitOn (separator : Char) : List Char → List (List Char)
  | [] => [[]]
  | c :: cs =>
    if c = separator then [] :: splitOn separator cs
    else
      match splitOn separator cs with
      | [] => [[c]]
      | part :: rest => (c :: part) :: rest

end PrepaidLedger.Text
