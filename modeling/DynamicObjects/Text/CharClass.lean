import DynamicObjects.Text.Table.Alphabetic
import DynamicObjects.Text.Table.Lowercase
import DynamicObjects.Text.Table.Uppercase
import DynamicObjects.Text.Table.Numeric

/-! # Character classes

    The classes of characters that text can be tested for, and the tests of a whole
    text. -/

namespace DynamicObjects

/-- The characters with the property `White_Space`. -/
def CharTable.whiteSpace : CharTable where
  ranges :=
    [(0x9, 0xD), (0x20, 0x20), (0x85, 0x85), (0xA0, 0xA0), (0x1680, 0x1680), (0x2000, 0x200A),
     (0x2028, 0x2029), (0x202F, 0x202F), (0x205F, 0x205F), (0x3000, 0x3000)]
  alternating := []

namespace CharClass

/-- Letters and what spells one. -/
def isAlphabetic (c : Char) : Bool := CharTable.alphabetic.contains c

/-- Digits of a positional decimal system. -/
def isDecimalDigit (c : Char) : Bool := CharTable.decimalDigit.contains c

/-- Decimal digits and other characters whose value is a single digit. -/
def isDigit (c : Char) : Bool := isDecimalDigit c || CharTable.digitValued.contains c

def isNumeric (c : Char) : Bool :=
  isDecimalDigit c || CharTable.letterNumber.contains c || CharTable.otherNumber.contains c

def isLowercase (c : Char) : Bool := CharTable.lowercase.contains c

def isUppercase (c : Char) : Bool := CharTable.uppercase.contains c

def isWhiteSpace (c : Char) : Bool := CharTable.whiteSpace.contains c

/-- A text that is not empty and consists of characters of one class. -/
def allOf (isMember : Char → Bool) (text : List Char) : Bool := !text.isEmpty && text.all isMember

/-- Some character is lowercase and none is uppercase. -/
def isLowerText (text : List Char) : Bool := text.any isLowercase && !text.any isUppercase

/-- Some character is uppercase and none is lowercase. -/
def isUpperText (text : List Char) : Bool := text.any isUppercase && !text.any isLowercase

def trim (text : List Char) : List Char :=
  ((text.dropWhile isWhiteSpace).reverse.dropWhile isWhiteSpace).reverse

end CharClass

end DynamicObjects
