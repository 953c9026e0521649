/-! # Fields

A text as fields with a separator between them.

* `join` — the text of some fields.
* `split` — the fields of a text, of which there is one more than there are separators. -/

namespace Hashgate.Fields

def join (separator : Char) : List (List Char) → List Char
  | [] => []
  | [field] => field
  | field :: rest => field ++ separator :: join separator rest

def split (separator : Char) : List Char → List (List Char)
  | [] => [[]]
  | c :: rest =>
    match split separator rest with
    | [] => [[c]]
    | field :: others => if c = separator then [] :: field :: others else (c :: field) :: others

end Hashgate.Fields
