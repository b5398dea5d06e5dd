import StoryBundle.Settings.File

/-!
# Writing settings files

The text of a settings file with given defaults and given sections for titles. Within a section
the settings may stand in any order.
-/

namespace StoryBundle.Written

/-- Settings with the order in which their lines are written. -/
structure Lines where
  settings : Settings
  order : List Setting
deriving DecidableEq, Repr

structure TitleSection where
  titles : List String
  lines : Lines
deriving DecidableEq, Repr

/-- A key, a colon, a space, the value and a line feed. -/
def line (settings : Settings) (setting : Setting) : List Char :=
  setting.key.toList ++ ':' :: ' ' :: ((settings.get setting).toList ++ ['\n'])

def Lines.text (lines : Lines) : List Char := lines.order.flatMap (line lines.settings)

/-- A break, the list of titles and the settings. -/
def TitleSection.text (part : TitleSection) : List Char :=
  '%' :: '%' :: '\n' :: (Section.titlesKey ++ ':' :: ' ' ::
    ([' '].intercalate (part.titles.map String.toList) ++ '\n' :: part.lines.text))

def file (defaults : Lines) (parts : List TitleSection) : String :=
  String.ofList (defaults.text ++ parts.flatMap TitleSection.text)

end StoryBundle.Written
