/-!
# Columns

Text padded with spaces to a column's width. A text that is already as wide stays as it is.
-/

namespace StoryBundle.Text

/-- Fills on the right, so that the text stands at the left of its column. -/
def alignLeft (width : Nat) (text : String) : String :=
  text ++ String.ofList (List.replicate (width - text.length) ' ')

/-- Fills on the left, so that the text stands at the right of its column. -/
def alignRight (width : Nat) (text : String) : String :=
  String.ofList (List.replicate (width - text.length) ' ') ++ text

/-- The lines of a text, each of which but the first starts with the filling. -/
def hangingIndent (filling : String) (text : String) : String :=
  String.ofList (text.toList.flatMap fun c => if c = '\n' then '\n' :: filling.toList else [c])

end StoryBundle.Text
