/-! # Quoted text

    The representation of a text between quotes.  The quotes are single, unless the
    text holds a single quote and no double quote; the quote in use, the backslash and
    three control characters are escaped, so no content can close the quotes. -/

namespace DynamicObjects

namespace Quoted

/-- The quote that a text is put between. -/
def delimiter (text : List Char) : Char :=
  if text.contains '\'' && !text.contains '"' then '"' else '\''

def encodeChar (quote : Char) (c : Char) : List Char :=
  if c = '\\' then ['\\', '\\']
  else if c = '\n' then ['\\', 'n']
  else if c = '\r' then ['\\', 'r']
  else if c = '\t' then ['\\', 't']
  else if c = quote then ['\\', c]
  else [c]

def encode (text : List Char) : List Char :=
  let quote := delimiter text
  quote :: text.flatMap (encodeChar quote) ++ [quote]

end Quoted

end DynamicObjects
