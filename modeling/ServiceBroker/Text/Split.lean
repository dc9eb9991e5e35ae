/-
Texts cut into pieces.
-/

namespace ServiceBroker

/-- The pieces of a text between the occurrences of a separator. -/
def splitChars (separator : Char) : List Char → List (List Char)
  | [] => [[]]
  | c :: rest =>
    if c = separator then [] :: splitChars separator rest
    else match splitChars separator rest with
      | first :: more => (c :: first) :: more
      | [] => [[c]]

/-- The words of a text between spaces and line breaks. -/
def words (text : String) : List (List Char) :=
  let (word, list) := text.foldl step ([], [])
  (if word.isEmpty then list else word.reverse :: list).reverse
where
  /-- Takes one more character. The word in hand and the words so far are held in reverse. -/
  step : List Char × List (List Char) → Char → List Char × List (List Char)
    | (word, list), c =>
      if c == ' ' || c == '\n' then ([], if word.isEmpty then list else word.reverse :: list) else (c :: word, list)

end ServiceBroker
