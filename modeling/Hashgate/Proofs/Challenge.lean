import Hashgate.Challenge
import Hashgate.Proofs.Header.RoundTrip
import Hashgate.Proofs.Text.Ascii

/-! # Challenges that are minted

A minted challenge is a header that can be read back, whatever chance and the clock add to it, as long as
the resource holds no colon.  Its text and those of all its answers are ASCII and take few octets, so
one read is enough for each of them.

* `Mint.header` — the header that a mint makes.
* `Mint.wellFormed_header` — it can be read back.
* `Header.isAscii_render`, `Header.length_render_le` — the text of a header.
* `Mint.isAscii_render`, `Mint.length_octets_le` — the octets of a challenge, and of all its answers.
-/

namespace Hashgate

/-! ## Tokens -/

namespace Token

variable {token : Token} {c : Char}

theorem length_octets (token : Token) : token.octets.length = 16 := by simp [octets]

theorem toList_text (token : Token) : token.text.toList =
    Hex.encode (token.octets.take 4) ++ '-' :: Hex.encode ((token.octets.drop 4).take 2) ++
      '-' :: Hex.encode ((token.octets.drop 6).take 2) ++
      '-' :: Hex.encode ((token.octets.drop 8).take 2) ++
      '-' :: Hex.encode ((token.octets.drop 10).take 6) := by
  simp [text]

theorem length_text (token : Token) : token.text.toList.length = 36 := by
  simp [toList_text, length_hex, length_octets]

/-- A token has nothing but digits and hyphens. -/
theorem of_mem_text (member : c ∈ token.text.toList) : c = '-' ∨ ∃ n < 16, c = Nat.digitChar n := by
  simp only [toList_text, List.mem_append, List.mem_cons] at member
  grind [exists_digit_of_mem_hex]

theorem isAscii_text (token : Token) : IsAscii token.text.toList := by
  intro c member
  obtain rfl | ⟨n, small, rfl⟩ := of_mem_text member
  · decide
  · exact digitChar_ascii n small

theorem colon_not_mem_text (token : Token) : ':' ∉ token.text.toList := by
  intro member
  have noDigit : ∀ n < 16, ':' ≠ Nat.digitChar n := by decide
  obtain hyphen | ⟨n, small, same⟩ := of_mem_text member
  · cases hyphen
  · exact noDigit n small same

end Token

/-! ## Stamps -/

namespace Minute

variable (m : Minute)

theorem length_stamp : m.stamp.length = 10 := rfl

theorem isAscii_stamp : IsAscii m.stamp :=
  ((((isAscii_twoDigits _).append (isAscii_twoDigits _)).append (isAscii_twoDigits _)).append
    (isAscii_twoDigits _)).append (isAscii_twoDigits _)

theorem colon_not_mem_stamp : ':' ∉ m.stamp := by
  have noDigit (n : Nat) : ':' ≠ Nat.digitChar (n % 10) := by
    have all : ∀ d < 10, ':' ≠ Nat.digitChar d := by decide
    exact all _ (Nat.mod_lt _ (by decide))
  simp [stamp, twoDigits, noDigit]

end Minute

/-! ## Texts of headers -/

namespace Header

variable {h : Header}

theorem isAscii_render (date : IsAscii h.date.toList) (resource : IsAscii h.resource.toList)
    (random : IsAscii h.random.toList) : IsAscii h.render.toList := by
  rw [toList_render]
  apply isAscii_join
  intro field member
  simp only [fields, List.mem_cons, List.not_mem_nil, or_false] at member
  obtain rfl | rfl | rfl | rfl | rfl | rfl | rfl := member
  · exact isAscii_ofNat _
  · exact isAscii_ofNat _
  · exact date
  · exact resource
  · exact List.forall_mem_nil _
  · exact random
  · exact isAscii_base64 _

theorem length_encodeCounter_le (counter : Int64) : (encodeCounter counter).length ≤ 28 := by
  have digits : (Decimal.ofInt counter.toInt).length ≤ 20 := by
    apply length_ofInt_le (by decide)
    have low := counter.le_toInt
    have high := counter.toInt_lt
    omega
  rw [encodeCounter, length_base64, Utf8.length_encode_of_isAscii (isAscii_ofInt _)]
  omega

/-- All fields but three are short, whatever they hold. -/
theorem length_render_le (h : Header) : h.render.toList.length ≤
    47 + h.date.toList.length + h.resource.toList.length + h.random.toList.length := by
  have version : (Decimal.ofNat h.version.toNat).length ≤ 3 :=
    length_ofNat_le (by decide) (Nat.lt_trans h.version.toNat_lt (by decide))
  have bits : (Decimal.ofNat h.bits.toNat).length ≤ 10 :=
    length_ofNat_le (by decide) (Nat.lt_trans h.bits.toNat_lt (by decide))
  have counter := length_encodeCounter_le h.counter
  rw [toList_render, fields, length_join]
  simp only [List.map_cons, List.map_nil, List.sum_cons, List.sum_nil, List.length_cons,
    List.length_nil]
  omega

/-- No header has an empty text, for there is a colon in it. -/
theorem ofString_render_ne_nil (h : Header) : Utf8.ofString h.render ≠ [] := by
  intro empty
  have noText : h.render.toList = [] := Utf8.encode_inj.mp empty
  rw [toList_render, fields, Fields.join_cons (List.cons_ne_nil _ _)] at noText
  exact List.cons_ne_nil _ _ (List.append_eq_nil_iff.mp noText).2

end Header

/-! ## Minted headers -/

namespace Mint

variable {resource : String}

def header (mint : Mint) (bits : UInt32) (resource : String) : Header :=
  .fresh mint.minute bits resource mint.random.toList mint.counter

theorem text_eq (mint : Mint) (bits : UInt32) (resource : String) :
    mint.text bits resource = (mint.header bits resource).render := rfl

theorem wellFormed_header (mint : Mint) (bits : UInt32) (colonless : ':' ∉ resource.toList) :
    (mint.header bits resource).WellFormed where
  colonless := by
    rintro (date | named | random)
    · rw [header, Header.fresh, String.toList_ofList] at date
      exact mint.minute.colon_not_mem_stamp date
    · exact colonless named
    · rw [header, Header.fresh, String.toList_ofList] at random
      exact Base64.colon_not_mem_encode _ random
  supported := rfl
  stamp := by
    rw [header, Header.fresh, String.toList_ofList]
    exact mint.minute.isStamp_stamp

theorem isAscii_render (mint : Mint) (bits : UInt32) (token : Token) (counter : Int64) :
    IsAscii ({ mint.header bits token.text with counter := counter } : Header).render.toList := by
  have date : IsAscii (mint.header bits token.text).date.toList := by
    rw [header, Header.fresh, String.toList_ofList]
    exact mint.minute.isAscii_stamp
  have random : IsAscii (mint.header bits token.text).random.toList := by
    rw [header, Header.fresh, String.toList_ofList]
    exact isAscii_base64 _
  exact Header.isAscii_render date token.isAscii_text random

/-- A challenge that names a token fits into one read, and so do all its answers. -/
theorem length_octets_le (mint : Mint) (bits : UInt32) (token : Token) (counter : Int64) :
    (Utf8.ofString { mint.header bits token.text with counter := counter }.render).length ≤ 1024 := by
  have ascii := mint.isAscii_render bits token counter
  have octets : mint.random.toList.length = 10 := Vector.length_toList
  -- 47 of the other fields, 10 of the date, 36 of the token and 16 of the random octets.
  have short := Header.length_render_le { mint.header bits token.text with counter := counter }
  rw [Utf8.ofString, Utf8.length_encode_of_isAscii ascii]
  simp only [header, Header.fresh, String.toList_ofList, Minute.length_stamp, Token.length_text,
    length_base64, octets] at short ⊢
  omega

end Mint

end Hashgate
