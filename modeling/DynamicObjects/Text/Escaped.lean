import DynamicObjects.Text.Table.DefaultIgnorable
import DynamicObjects.Text.Table.GraphemeExtend
import DynamicObjects.Text.Table.Unprintable

/-! # Escaped text

    The form in which listings of constants show a text: between double quotes, with
    an escape for every character that cannot be seen on its own. -/

namespace DynamicObjects

namespace Escaped

/-- The halfwidth sound marks of Katakana.  They extend a grapheme but take up room of their
    own. -/
def isHalfwidthMark (c : Char) : Bool := decide (0xFF9E ≤ c.toNat ∧ c.toNat ≤ 0xFF9F)

/-- Whether a character cannot be read without the one in front of it. -/
def isCombining (c : Char) : Bool := CharTable.graphemeExtend.contains c && !isHalfwidthMark c

/-- Whether a character shows as itself. -/
def isVisible (c : Char) : Bool :=
  !isCombining c && !CharTable.defaultIgnorable.contains c && !CharTable.unprintable.contains c

def encodeChar (c : Char) : List Char :=
  if c = Char.ofNat 0 then ['\\', '0']
  else if c = '\t' then ['\\', 't']
  else if c = '\r' then ['\\', 'r']
  else if c = '\n' then ['\\', 'n']
  else if c = '\\' then ['\\', '\\']
  else if c = '"' then ['\\', '"']
  else if isVisible c then [c]
  else '\\' :: 'u' :: '{' :: Nat.toDigits 16 c.toNat ++ ['}']

def encode (text : List Char) : List Char := '"' :: text.flatMap encodeChar ++ ['"']

end Escaped

end DynamicObjects
