/-
# Words and names

A word is a run of letters, numbers and underscores of any script. A name of a condition starts with
a letter or an underscore and goes on with letters, digits, marks and underscores.
-/

import Walkthrough.Text.WordTable
import Walkthrough.Text.NameStartTable
import Walkthrough.Text.NameTable

namespace Walkthrough
namespace Text

/-- The Latin letters and the underscore. -/
def isLatinNameStart (c : Char) : Bool := c.isAlpha || c == '_'

/-- The Latin letters, the Latin digits and the underscore. -/
def isLatinNameChar (c : Char) : Bool := c.isAlphanum || c == '_'

/-- Characters of words. -/
def isWordChar (c : Char) : Bool :=
  if c.toNat < 128 then isLatinNameChar c else inClass alphanumericBoundaries c

/-- Characters that may start a name. -/
def isNameStart (c : Char) : Bool :=
  if c.toNat < 128 then isLatinNameStart c else inClass nameStartBoundaries c

/-- Characters that may go on a name. -/
def isNameChar (c : Char) : Bool :=
  if c.toNat < 128 then isLatinNameChar c else inClass nameBoundaries c

end Text
end Walkthrough
