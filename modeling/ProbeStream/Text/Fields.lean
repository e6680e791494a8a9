/-!
# Fields

A text is cut at every occurrence of a separator. There is always one field more than there
are separators, so an empty text has one empty field.
-/

namespace ProbeStream.Text

/-- The pieces of `text` between the separators. -/
def fields (separator : Char) : (text : List Char) → List (List Char)
  | [] => [[]]
  | c :: rest =>
    if c = separator then [] :: fields separator rest
    else match fields separator rest with
      | [] => [[c]]
      | first :: others => (c :: first) :: others

/-- Whether `text` begins with `lead`. -/
def startsWith (lead text : String) : Bool := lead.toList.isPrefixOf text.toList

/-- What follows `lead` in a text that begins with it. -/
def afterLead? (lead text : String) : Option String :=
  if startsWith lead text then some (String.ofList (text.toList.drop lead.toList.length))
  else none

end ProbeStream.Text
