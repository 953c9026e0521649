import Hashgate.Proofs.Text.Utf8

/-! # Reading any octets

The lossy reader never fails.  What it makes of well-formed octets is the text that they stand for, so
it loses nothing of what was written as text, however the octets got there.

* `readAll_append` — one character after the other.
* `toStringLossy_ofString` — text comes back as it was.
-/

namespace Hashgate.Utf8

theorem feed_complete {reader : Reader} {b : UInt8} {c : Char}
    (completes : reader.step b = .complete c) : reader.feed b = ([c], .start) := by
  cases reader <;> simp [Reader.feed, completes]

theorem feed_advance {reader next : Reader} {b : UInt8} (advances : reader.step b = .advance next) :
    reader.feed b = ([], next) := by
  cases reader <;> simp [Reader.feed, advances]

/-- The lossy reader takes one well-formed character after the other. -/
theorem readAll_append {reader : Reader} {octets : List UInt8} {c : Char}
    (reads : Reader.Reads reader octets c) (rest : List UInt8) :
    reader.readAll (octets ++ rest) = c :: Reader.start.readAll rest := by
  induction reads with
  | last completes =>
    rw [List.singleton_append, Reader.readAll, feed_complete completes]
    rfl
  | more advances _ ih =>
    rw [List.cons_append, Reader.readAll, feed_advance advances]
    exact ih

theorem decodeLossy_encode (text : List Char) : decodeLossy (encode text) = text := by
  induction text with
  | nil => rfl
  | cons c text ih =>
    rw [decodeLossy, encode, List.flatMap_cons, readAll_append (reads_encodeChar c)]
    exact congrArg (c :: ·) ih

@[simp] theorem toStringLossy_ofString (text : String) : toStringLossy (ofString text) = text := by
  rw [toStringLossy, ofString, decodeLossy_encode, String.ofList_toList]

end Hashgate.Utf8
