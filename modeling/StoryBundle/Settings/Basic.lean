/-!
# Settings

The five settings that a title can have. An empty value means that the setting is not made.
-/

namespace StoryBundle

inductive Setting where
  | title
  | width
  | height
  | blorb
  | terpnum
deriving DecidableEq, Repr

namespace Setting

/-- The order in which settings are listed. -/
def all : List Setting := [title, width, height, blorb, terpnum]

/-- The word by which a settings file names a setting. -/
def key : Setting → String
  | title => "title"
  | width => "width"
  | height => "height"
  | blorb => "blorb"
  | terpnum => "terpnum"

def ofKey? (key : String) : Option Setting := all.find? (·.key == key)

theorem mem_all (setting : Setting) : setting ∈ all := by cases setting <;> decide

end Setting

structure Settings where
  title : String
  width : String
  height : String
  blorb : String
  terpnum : String
deriving DecidableEq, Repr

namespace Settings

def get (settings : Settings) : Setting → String
  | .title => settings.title
  | .width => settings.width
  | .height => settings.height
  | .blorb => settings.blorb
  | .terpnum => settings.terpnum

/-- The settings with a given value for each of the five. -/
def ofValues (value : Setting → String) : Settings :=
  ⟨value .title, value .width, value .height, value .blorb, value .terpnum⟩

/-- No setting is made. -/
def none : Settings := ofValues fun _ => ""

/-- The settings with their values, in the order of listing. -/
def entries (settings : Settings) : List (String × String) :=
  Setting.all.map fun setting => (setting.key, settings.get setting)

/-- Values that are not made are taken from other settings. -/
def filledFrom (settings defaults : Settings) : Settings :=
  ofValues fun setting =>
    if settings.get setting = "" then defaults.get setting else settings.get setting

@[simp] theorem get_ofValues (value : Setting → String) (setting : Setting) :
    (ofValues value).get setting = value setting := by
  cases setting <;> rfl

@[simp] theorem ofValues_get (settings : Settings) : ofValues settings.get = settings := rfl

theorem ext_get {left right : Settings} (same : ∀ setting, left.get setting = right.get setting) :
    left = right := by
  rw [← ofValues_get left, ← ofValues_get right, funext same]

end Settings
end StoryBundle
