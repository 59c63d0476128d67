/-
Quoted text.

A text is put between single quotes, or between double quotes if it holds a single quote and no
double quote.  The quote in use and the backslash get a backslash in front; tab, line feed and
carriage return have short forms, and other characters that are not printable are written by code
point in two, four or eight hexadecimal digits.
-/
import Chip8.Text.Hex
import Chip8.Text.Printable

namespace Chip8.Text

/-- The written form of one character between the quotes `quote`. -/
def escape (quote c : Char) : List Char :=
  if c = quote ∨ c = '\\' then ['\\', c]
  else if c = '\t' then ['\\', 't']
  else if c = '\n' then ['\\', 'n']
  else if c = '\r' then ['\\', 'r']
  else if isPrintable c then [c]
  else if c.toNat < 0x100 then '\\' :: 'x' :: Hex.fixed .lower 2 c.toNat
  else if c.toNat < 0x10000 then '\\' :: 'u' :: Hex.fixed .lower 4 c.toNat
  else '\\' :: 'U' :: Hex.fixed .lower 8 c.toNat

/-- Which quote a text is put between. -/
def quoteFor (text : List Char) : Char :=
  if '\'' ∈ text ∧ '"' ∉ text then '"' else '\''

def quotedChars (text : List Char) : List Char :=
  let quote := quoteFor text
  quote :: (text.flatMap (escape quote) ++ [quote])

def quoted (text : String) : String := String.ofList (quotedChars text.toList)

end Chip8.Text
