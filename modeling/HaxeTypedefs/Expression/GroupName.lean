/-
The names of groups in a written regular expression.

A name begins with a letter or an underscore; digits, full stops and brackets
can follow.  What a letter or a digit is comes from Unicode 17 here, which has
more of them than Unicode 16.
-/
import HaxeTypedefs.Unicode.Property

namespace HaxeTypedefs

/-- The letters that Unicode 17 has in addition. -/
def addedLetters : CharSet :=
  .ofText "88F C5C CDC A7CE-A7CF A7D2 A7D4 A7F1 10940-10959 10EC5-10EC7 10EFA-10EFB 11B60-11B67
    11DB0-11DDB 16EA0-16EB8 16EBB-16ED3 16FF2-16FF6 187F8-187FF 18D09-18D1E 18D80-18DF2
    1E6C0-1E6DE 1E6E0-1E6F5 1E6FE-1E6FF 2B73A-2B73F 2CEA2-2CEAD 323B0-33479"

/-- The digits that Unicode 17 has in addition. -/
def addedDigits : CharSet := .ofText "11DE0-11DE9"

def groupNameLetters : CharSet := alphabetic.union addedLetters

def groupNameDigits : CharSet := (Category.setOf [.nd, .nl, .no]).union addedDigits

/-- The character can stand in the name of a group. -/
def isGroupNameChar (first : Bool) (c : Char) : Bool :=
  c == '_' || groupNameLetters.has c ||
    !first && (c == '.' || c == '[' || c == ']' || groupNameDigits.has c)

end HaxeTypedefs
