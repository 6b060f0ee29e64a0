import TableExport.Number.Numeral
import TableExport.Text.Printable

/-! # Quoted text in messages

A message quotes a text as one line of printable characters.  The quotation mark is the single
quote, unless the text has single quotes and no double quotes.  The mark in use and the backslash
get a backslash in front; tab, line feed and carriage return are `\t`, `\n` and `\r`; every other
unprintable character is `\xhh`, `\uhhhh` or `\Uhhhhhhhh` in lower-case hexadecimal. -/

namespace TableExport.Text

/-- The quotation mark of a text. -/
def quotationMark (cs : List Char) : Char :=
  if cs.contains '\x27' && !cs.contains '\x22' then '\x22' else '\x27'

/-- A character inside the quotation marks. -/
def escaped (mark c : Char) : List Char :=
  if c = mark ∨ c = '\x5c' then ['\x5c', c]
  else if c = '\t' then ['\x5c', 't']
  else if c = '\n' then ['\x5c', 'n']
  else if c = '\r' then ['\x5c', 'r']
  else if isPrintable c then [c]
  else if c.toNat < 0x100 then '\x5c' :: 'x' :: Numeral.hex 2 c.toNat
  else if c.toNat < 0x10000 then '\x5c' :: 'u' :: Numeral.hex 4 c.toNat
  else '\x5c' :: 'U' :: Numeral.hex 8 c.toNat

/-- A text in quotation marks. -/
def quoted (text : String) : String :=
  let mark := quotationMark text.toList
  String.ofList (mark :: (text.toList.flatMap (escaped mark) ++ [mark]))

end TableExport.Text
