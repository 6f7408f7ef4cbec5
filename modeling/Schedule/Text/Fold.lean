/-! # Folding letter case in names

Field names, the word `group` and the weekday keywords are looked up without regard to letter
case. All of them consist of ASCII letters, so it is enough to fold the characters whose
lower-case form is an ASCII letter: the 26 capitals and the Kelvin sign. Every other character
keeps a form outside the ASCII letters and so can match no name.
-/

namespace Schedule.Text

/-- The character that stands for `c` when names are compared. -/
def foldChar (c : Char) : Char :=
  if c = '\u212a' then 'k' else c.toLower

/-- A name with its letter case folded away. -/
def fold (name : String) : String :=
  String.ofList (name.toList.map foldChar)

end Schedule.Text
