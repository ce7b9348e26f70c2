namespace Switchboard.Text

/-!
# Parts of texts

The parts of a text between the occurrences of a character.
-/

/-- The parts of a text between the occurrences of a character. -/
def parts (separator : Char) : List Char → List (List Char)
  | [] => [[]]
  | c :: rest =>
      if c = separator then [] :: parts separator rest
      else
        match parts separator rest with
        | [] => [[c]]
        | part :: later => (c :: part) :: later

end Switchboard.Text
