/-!
# Splitting

A list of characters cut at a separator: at its first place, at all places, or at so many places.
-/

namespace SqlEngine
namespace Text

/-- What stands in front of the first separator and behind it, if there is one. -/
def splitFirst? (separator : Char) : List Char → Option (List Char × List Char)
  | [] => none
  | c :: rest =>
    if c = separator then some ([], rest)
    else (splitFirst? separator rest).map fun (before, behind) => (c :: before, behind)

/-- The parts between the separators. -/
def splitAll (separator : Char) : List Char → List (List Char)
  | [] => [[]]
  | c :: rest =>
    if c = separator then [] :: splitAll separator rest
    else
      match splitAll separator rest with
      | part :: parts => (c :: part) :: parts
      | [] => [[c]]

end Text
end SqlEngine
