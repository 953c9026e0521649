import Hashgate.Text.Unprintable

/-! # Quoted text

A text between double quotes, in which every character can be seen: quotes, backslashes and the
common blanks have escapes of their own, and other unprintable characters are shown by their number
in base sixteen. -/

namespace Hashgate.Quoted

def escape (c : Char) : List Char :=
  match c with
  | '\x00' => ['\\', '0']
  | '\t' => ['\\', 't']
  | '\r' => ['\\', 'r']
  | '\n' => ['\\', 'n']
  | '"' => ['\\', '"']
  | '\\' => ['\\', '\\']
  | c =>
    if isUnprintable c then ['\\', 'u', '\x7b'] ++ Nat.toDigits 16 c.toNat ++ ['\x7d'] else [c]

def quote (text : String) : String :=
  "\"" ++ String.ofList (text.toList.flatMap escape) ++ "\""

end Hashgate.Quoted
