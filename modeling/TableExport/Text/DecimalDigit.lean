import TableExport.Text.Ascii

/-! # Decimal digits of all scripts

The Unicode category Nd (decimal digits) consists of runs of ten characters, a zero to a nine, one
run for each script that has digits of its own.  `decimalDigit?` is the value of such a digit, and
`asciiDigits` writes every digit of a text in its ASCII form. -/

namespace TableExport.Text

/-- The zero of each run of ten digits. -/
def digitZeros : List Nat := [
  0x30, 0x660, 0x6F0, 0x7C0, 0x966, 0x9E6, 0xA66, 0xAE6, 0xB66, 0xBE6, 0xC66, 0xCE6, 0xD66, 0xDE6,
  0xE50, 0xED0, 0xF20, 0x1040, 0x1090, 0x17E0, 0x1810, 0x1946, 0x19D0, 0x1A80, 0x1A90, 0x1B50,
  0x1BB0, 0x1C40, 0x1C50, 0xA620, 0xA8D0, 0xA900, 0xA9D0, 0xA9F0, 0xAA50, 0xABF0, 0xFF10, 0x104A0,
  0x10D30, 0x11066, 0x110F0, 0x11136, 0x111D0, 0x112F0, 0x11450, 0x114D0, 0x11650, 0x116C0,
  0x11730, 0x118E0, 0x11950, 0x11C50, 0x11D50, 0x11DA0, 0x16A60, 0x16AC0, 0x16B50, 0x1D7CE,
  0x1D7D8, 0x1D7E2, 0x1D7EC, 0x1D7F6, 0x1E140, 0x1E2F0, 0x1E950, 0x1FBF0]

/-- The value of a decimal digit of any script. -/
def decimalDigit? (c : Char) : Option Nat :=
  (digitZeros.find? fun start => start ≤ c.toNat && c.toNat ≤ start + 9).map (c.toNat - ·)

/-- A digit in its ASCII form; any other character unchanged. -/
def asciiDigit (c : Char) : Char :=
  match decimalDigit? c with
  | some value => value.digitChar
  | none => c

/-- A text with the digits of all scripts written in ASCII. -/
def asciiDigits (cs : List Char) : List Char :=
  cs.map asciiDigit

theorem decimalDigit?_ascii :
    ∀ value : Fin 10, decimalDigit? (Char.ofNat (48 + value)) = some value := by
  decide +kernel

/-- A character below U+0080 is its own ASCII form. -/
theorem asciiDigit_ascii (c : Char) (hc : c.toNat < 128) : asciiDigit c = c :=
  forall_ascii (p := fun c => asciiDigit c = c) (by decide +kernel) c hc

theorem asciiDigits_of_ascii {cs : List Char} (h : ∀ c ∈ cs, c.toNat < 128) :
    asciiDigits cs = cs :=
  (List.map_congr_left fun c hc => asciiDigit_ascii c (h c hc)).trans (List.map_id cs)

end TableExport.Text
