/-!
# Letters in lower case

Words and keys of the settings are compared without regard to case.  What they are compared with is
made of ASCII letters, so only the characters count whose lower case is such a letter: the capital
letters of ASCII, and the sign for kelvin.
-/

namespace SpotForecast

/-- The sign for kelvin, whose lower case is the letter `k`. -/
def Text.kelvinSign : Char := '\u212A'

/-- A character in lower case, if that is an ASCII letter. -/
def Text.lower (c : Char) : Char :=
  if c = kelvinSign then 'k' else c.toLower

/-- A text with its letters in lower case. -/
def lowered (text : String) : String :=
  String.ofList (text.toList.map Text.lower)

end SpotForecast
