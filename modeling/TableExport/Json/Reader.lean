import TableExport.Bindings
import TableExport.Json.Fault
import TableExport.Json.Value
import TableExport.Number.Decimal

/-! # Reading JSON texts

A reader takes what it needs from the front of a text and returns the rest, or stops with a
complaint and the part of the text from which the complaint is made.  `read` is the whole document:
one value with optional white space around it.

Beyond the standard the words `NaN`, `Infinity` and `-Infinity` are values.  Of the members of an
object with equal names the last one counts.  An integer of more than `digitLimit?` digits is
refused, if there is such a limit. -/

namespace TableExport.Json

/-- Why and where a reader stops. -/
inductive Stop
  | at (complaint : Complaint) (rest : List Char)
  | longInteger (digits : Nat)
  deriving DecidableEq, Repr

/-- What a reader returns: its result and the rest of the text. -/
abbrev Reading (α : Type) := Except Stop (α × List Char)

/-- The text after its leading white space. -/
def skipSpace (cs : List Char) : List Char :=
  cs.dropWhile fun c => c = ' ' ∨ c = '\t' ∨ c = '\n' ∨ c = '\r'

/-! ### Texts in quotation marks -/

/-- A part of a text: a character, or a UTF-16 code unit given by its number. -/
inductive Piece
  | char (c : Char)
  | unit (n : Nat)
  deriving DecidableEq, Repr

/-- The first of the two code units of a character beyond U+FFFF. -/
def isHighSurrogate (n : Nat) : Bool := 0xD800 ≤ n && n ≤ 0xDBFF

/-- The second of the two code units of a character beyond U+FFFF. -/
def isLowSurrogate (n : Nat) : Bool := 0xDC00 ≤ n && n ≤ 0xDFFF

/-- The character of a code unit that stands alone.  Half a pair is no character and a `String`
cannot hold it, so that it is read as the replacement character where a reader whose texts are
sequences of code units would keep it. -/
def loneUnit (n : Nat) : Char :=
  if isHighSurrogate n || isLowSurrogate n then Char.ofNat 0xFFFD else Char.ofNat n

/-- The character of a pair of code units. -/
def pairedUnits (high low : Nat) : Char :=
  Char.ofNat (0x10000 + (high - 0xD800) * 0x400 + (low - 0xDC00))

/-- The characters that a sequence of parts spells. -/
def spell : List Piece → List Char
  | [] => []
  | .char c :: rest => c :: spell rest
  | .unit n :: .unit m :: rest =>
      if isHighSurrogate n && isLowSurrogate m then pairedUnits n m :: spell rest
      else loneUnit n :: spell (.unit m :: rest)
  | .unit n :: rest => loneUnit n :: spell rest

/-- The value of a hexadecimal digit. -/
def hexValue? (c : Char) : Option Nat :=
  if '0' ≤ c ∧ c ≤ '9' then some (c.toNat - '0'.toNat)
  else if 'a' ≤ c ∧ c ≤ 'f' then some (c.toNat - 'a'.toNat + 10)
  else if 'A' ≤ c ∧ c ≤ 'F' then some (c.toNat - 'A'.toNat + 10)
  else none

/-- The number that four hexadecimal digits denote. -/
def hexQuad? (a b c d : Char) : Option Nat := do
  let a ← hexValue? a
  let b ← hexValue? b
  let c ← hexValue? c
  let d ← hexValue? d
  return ((a * 16 + b) * 16 + c) * 16 + d

/-- The character that a backslash and a letter stand for. -/
def shortEscape? : Char → Option Char
  | '\x22' => some '\x22'
  | '\x5c' => some '\x5c'
  | '/' => some '/'
  | 'b' => some '\x08'
  | 'f' => some '\x0c'
  | 'n' => some '\n'
  | 'r' => some '\r'
  | 't' => some '\t'
  | _ => none

/-- The parts of a text up to its closing quotation mark.  The first argument is the text from the
opening mark on. -/
def pieces (opening : List Char) : List Char → Reading (List Piece)
  | [] => .error (.at .unterminatedText opening)
  | '\x22' :: rest => .ok ([], rest)
  | '\x5c' :: [] => .error (.at .unterminatedText opening)
  | '\x5c' :: 'u' :: a :: b :: c :: d :: rest =>
      match hexQuad? a b c d with
      | some n =>
          if rest.isEmpty then .error (.at .badUnicodeEscape ('u' :: a :: b :: c :: d :: rest))
          else (pieces opening rest).map fun (more, left) => (.unit n :: more, left)
      | none => .error (.at .badUnicodeEscape ('u' :: a :: b :: c :: d :: rest))
  | '\x5c' :: 'u' :: rest => .error (.at .badUnicodeEscape ('u' :: rest))
  | '\x5c' :: letter :: rest =>
      match shortEscape? letter with
      | some c => (pieces opening rest).map fun (more, left) => (.char c :: more, left)
      | none => .error (.at .badEscape ('\x5c' :: letter :: rest))
  | c :: rest =>
      if c.toNat < 0x20 then .error (.at .controlCharacter (c :: rest))
      else (pieces opening rest).map fun (more, left) => (.char c :: more, left)

/-- A text after its opening quotation mark. -/
def quotedText (afterMark : List Char) : Reading String :=
  (pieces ('\x22' :: afterMark) afterMark).map fun (parts, rest) =>
    (String.ofList (spell parts), rest)

/-! ### Numbers and words -/

/-- The digits before the point: a single zero, or a run that does not begin with zero. -/
def splitWhole : List Char → List Char × List Char
  | '0' :: rest => (['0'], rest)
  | cs => Numeral.splitDigits cs

/-- The digits after the point, if a point with digits follows. -/
def splitFraction? : List Char → Option (List Char × List Char)
  | '.' :: cs =>
      let (digits, rest) := Numeral.splitDigits cs
      if digits = [] then none else some (digits, rest)
  | _ => none

/-- The exponent, if a mark with digits follows. -/
def splitExponent? : List Char → Option (Int × List Char)
  | mark :: cs =>
      if mark = 'e' ∨ mark = 'E' then
        let (negative, afterSign) := Numeral.splitSign cs
        let (digits, rest) := Numeral.splitDigits afterSign
        if digits = [] then none
        else some (Numeral.signed negative (Numeral.ofDigits digits), rest)
      else none
  | [] => none

/-- The value of a number with a fraction or an exponent. -/
def realValue (literal : Decimal) : Value :=
  match literal.toBinary64? with
  | some x => .real x
  | none => .nonFinite

/-- A number: the longest one at the front of the text. -/
def number (digitLimit? : Option Nat) (cs : List Char) : Reading Value :=
  let (negative, body) :=
    match cs with
    | '-' :: rest => (true, rest)
    | _ => (false, cs)
  let (whole, afterWhole) := splitWhole body
  if whole = [] then .error (.at .valueExpected cs)
  else
    let (fraction?, afterFraction) :=
      match splitFraction? afterWhole with
      | some (digits, rest) => (some digits, rest)
      | none => (none, afterWhole)
    let (exponent?, rest) :=
      match splitExponent? afterFraction with
      | some (exponent, rest) => (some exponent, rest)
      | none => (none, afterFraction)
    if fraction?.isNone && exponent?.isNone then
      if digitLimit?.any (· < whole.length) then .error (.longInteger whole.length)
      else .ok (.integer (Numeral.signed negative (Numeral.ofDigits whole)), rest)
    else
      let literal := Decimal.ofDigits negative whole (fraction?.getD []) (exponent?.getD 0)
      .ok (realValue literal, rest)

/-- The words that are values. -/
def words : List (String × Value) :=
  [("null", .null), ("true", .bool true), ("false", .bool false), ("NaN", .nonFinite),
    ("Infinity", .nonFinite), ("-Infinity", .nonFinite)]

/-- What follows a word at the front of a text. -/
def afterWord? : List Char → List Char → Option (List Char)
  | [], cs => some cs
  | _ :: _, [] => none
  | w :: word, c :: cs => if w = c then afterWord? word cs else none

/-- A word that is a value, if the text begins with one. -/
def word? (cs : List Char) : Option (Value × List Char) :=
  words.findSome? fun (spelling, value) =>
    (afterWord? spelling.toList cs).map fun rest => (value, rest)

/-! ### Lists and objects -/

/-- One or more elements, separated by commas, up to a closing mark.  The number bounds the
elements that are read. -/
def elements {α : Type} (close : Char) (element : List Char → Reading α) :
    Nat → List Char → Except Stop (List α × List Char)
  | 0, cs => .error (.at .valueExpected cs)
  | bound + 1, cs => do
      let (first, afterFirst) ← element cs
      match skipSpace afterFirst with
      | [] => .error (.at .commaExpected [])
      | c :: rest =>
          if c = close then .ok ([first], rest)
          else if c = ',' then do
            let (others, left) ← elements close element bound (skipSpace rest)
            return (first :: others, left)
          else .error (.at .commaExpected (c :: rest))

/-- The elements after an opening mark, if any, up to the closing mark.  The number bounds the
elements that are read. -/
def enclosed {α : Type} (close : Char) (element : List Char → Reading α) (bound : Nat)
    (cs : List Char) : Reading (List α) :=
  match skipSpace cs with
  | [] => elements close element bound []
  | c :: rest =>
      if c = close then .ok ([], rest) else elements close element bound (c :: rest)

/-- A member of an object: a name, a colon and a value. -/
def member (value : List Char → Reading Value) :
    List Char → Except Stop ((String × Value) × List Char)
  | '\x22' :: cs => do
      let (name, afterName) ← quotedText cs
      match skipSpace afterName with
      | ':' :: rest => do
          let (held, left) ← value (skipSpace rest)
          return ((name, held), left)
      | rest => .error (.at .colonExpected rest)
  | cs => .error (.at .nameExpected cs)

/-- A value at the front of a text.  The number bounds the depth to which values are nested and the
number of elements side by side; the length of the text is enough. -/
def value (digitLimit? : Option Nat) : Nat → List Char → Reading Value
  | 0, cs => .error (.at .valueExpected cs)
  | bound + 1, cs =>
      match cs with
      | '\x22' :: rest => (quotedText rest).map fun (text, left) => (.text text, left)
      | '[' :: rest =>
          (enclosed ']' (value digitLimit? bound) (bound + 1) rest).map fun (items, left) =>
            (.list items, left)
      | '\x7b' :: rest =>
          (enclosed '\x7d' (member (value digitLimit? bound)) (bound + 1) rest).map
            fun (members, left) => (.object (Entries.ofPairs members), left)
      | _ =>
          match word? cs with
          | some found => .ok found
          | none => number digitLimit? cs

/-! ### Documents -/

/-- A document: one value and nothing after it. -/
def document (digitLimit? : Option Nat) (cs : List Char) : Except Stop Value := do
  if cs.head? = some (Char.ofNat 0xFEFF) then .error (.at .byteOrderMark cs)
  else
    let (held, rest) ← value digitLimit? (cs.length + 1) (skipSpace cs)
    match skipSpace rest with
    | [] => return held
    | left => .error (.at .extraData left)

/-- The place in a text where a part of it that reaches to the end begins. -/
def placeOf (cs rest : List Char) : Place :=
  Place.after (cs.take (cs.length - rest.length))

/-- The value that a text denotes. -/
def read (digitLimit? : Option Nat) (text : String) : Except Fault Value :=
  let cs := text.toList
  match document digitLimit? cs with
  | .ok held => .ok held
  | .error (.at complaint rest) => .error (.malformed complaint (placeOf cs rest))
  | .error (.longInteger digits) => .error (.longInteger digits)

end TableExport.Json
