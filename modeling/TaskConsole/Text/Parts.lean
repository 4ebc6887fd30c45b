/-!
# Parts of texts — cutting at a separator, and joining again

* `splitOn` — the parts between the occurrences of a character;
* `joinWith` — parts with a separator between them. -/

namespace TaskConsole.Text

/-- A text cut at every occurrence of a character; there is always one part. -/
def splitOn (sep : Char) : List Char → List (List Char)
  | [] => [[]]
  | c :: cs =>
    match splitOn sep cs with
    | [] => [[c]]
    | part :: parts => if c = sep then [] :: part :: parts else (c :: part) :: parts

/-- Texts with a separator between them. -/
def joinWith (sep : List Char) : List (List Char) → List Char
  | [] => []
  | [cs] => cs
  | cs :: rest => cs ++ sep ++ joinWith sep rest

end TaskConsole.Text
