-- Texts in parts, between characters that separate them.

namespace ToggleSync

/-- The parts of a text between the characters that satisfy `p`. There is always one. -/
def splitAt (p : Char → Bool) : List Char → List (List Char)
  | [] => [[]]
  | c :: cs =>
    if p c then [] :: splitAt p cs
    else
      match splitAt p cs with
      | [] => [[c]]
      | part :: parts => (c :: part) :: parts

end ToggleSync
