import Hashgate.Proofs.Header.Grammar

/-! # Reading what was written

A header can be read back from its text unless one of its own fields gets in the way: a colon in one
of the three texts makes too many fields, and nothing else makes the wrong number of them.  A version
or a date that no reader takes comes next.  Every other header is read back as it was, and these are
the only headers that reading ever gives.

* `HasColon`, `WellFormed` — the headers that cannot and that can be read back.
* `parse_render_of_wellFormed`, `wellFormed_of_parse` — both directions for well-formed headers.
* `parse_render` — what reading makes of the text of any header.
-/

namespace Hashgate.Header

open Decimal (SpellsInt SpellsNat)

variable {text : String} {h : Header}

/-! ## Headers that can be read back -/

/-- A header whose texts would be split. -/
def HasColon (h : Header) : Prop :=
  ':' ∈ h.date.toList ∨ ':' ∈ h.resource.toList ∨ ':' ∈ h.random.toList

instance (h : Header) : Decidable h.HasColon := by
  unfold HasColon
  infer_instance

/-- A header that a text can stand for. -/
structure WellFormed (h : Header) : Prop where
  colonless : ¬ h.HasColon
  supported : h.version = 1
  stamp : IsStamp h.date.toList

/-! ## Colons of a text -/

theorem colon_not_mem_ofNat (n : Nat) : ':' ∉ Decimal.ofNat n := by
  intro member
  have digit := (Decimal.isDigits_ofNat n).2 ':' member
  cases digit

theorem toList_render (h : Header) : h.render.toList = Fields.join ':' h.fields :=
  String.toList_ofList

/-- Apart from the six colons between the fields there are those inside them. -/
theorem count_render (h : Header) :
    h.render.toList.count ':' =
      6 + h.date.toList.count ':' + h.resource.toList.count ':' + h.random.toList.count ':' := by
  -- The numbers are written without colons, so only the three texts can add any.
  have version := List.count_eq_zero.mpr (colon_not_mem_ofNat h.version.toNat)
  have bits := List.count_eq_zero.mpr (colon_not_mem_ofNat h.bits.toNat)
  have counter : (encodeCounter h.counter).count ':' = 0 :=
    List.count_eq_zero.mpr (Base64.colon_not_mem_encode _)
  rw [toList_render]
  simp only [fields, Fields.join, List.count_append, List.count_cons_self, List.count_nil, version,
    bits, counter]
  omega

/-- Without colons inside them the fields of a text are those of the header. -/
theorem divided_render (colonless : ¬ h.HasColon) :
    Divided h.render (Decimal.ofNat h.version.toNat) (Decimal.ofNat h.bits.toNat) h.date.toList
      h.resource.toList [] h.random.toList (encodeCounter h.counter) where
  joined := toList_render h
  colonless := by
    simp only [HasColon, not_or] at colonless
    simp [colonless, colon_not_mem_ofNat, encodeCounter, Base64.colon_not_mem_encode]

/-! ## Reading back -/

theorem spellsInt_version (h : Header) :
    SpellsInt (Decimal.ofNat h.version.toNat) (Int64.ofNat h.version.toNat).toInt := by
  have small := h.version.toNat_lt
  rw [Int64.toInt_ofNat_of_lt (by omega)]
  simpa using SpellsInt.plain (Decimal.isDigits_ofNat h.version.toNat)

theorem toInt_version_eq_one_iff (h : Header) :
    (Int64.ofNat h.version.toNat).toInt = 1 ↔ h.version = 1 := by
  have small := h.version.toNat_lt
  rw [Int64.toInt_ofNat_of_lt (by omega), ← UInt8.toNat_inj]
  exact Int.ofNat_inj

/-- A text that falls apart in more fields. -/
theorem parse_render_of_hasColon (colon : h.HasColon) :
    parse h.render = .error (.malformed h.render) := by
  refine parse_eq_malformed_iff.mpr ⟨rfl, ?_⟩
  rw [count_render]
  obtain date | resource | random := colon
  · have more := List.count_pos_iff.mpr date
    omega
  · have more := List.count_pos_iff.mpr resource
    omega
  · have more := List.count_pos_iff.mpr random
    omega

/-- Without colons the version comes first, then the date, and no other field can be at fault. -/
theorem parse_render_of_colonless (colonless : ¬ h.HasColon) :
    parse h.render =
      if h.version ≠ 1 then .error (.unsupportedVersion (Int64.ofNat h.version.toNat))
      else if ¬ IsStamp h.date.toList then .error (.invalidDate h.date)
      else .ok h := by
  have bits := Decimal.spellsNat_ofNat h.bits.toNat
  have counter := Decimal.spellsInt_ofInt h.counter.toInt
  have version := spellsInt_version h
  rw [(divided_render colonless).parse_eq, readBits_of_spells bits]
  by_cases supported : h.version = 1
  · rw [(toInt_version_eq_one_iff h).mpr supported] at version
    rw [readVersion_of_spells version, if_neg (not_not_intro supported)]
    by_cases stamp : IsStamp h.date.toList
    · rw [readDate_of_isStamp stamp, encodeCounter, readCounter_encode counter,
        if_neg (not_not_intro stamp), ← supported]
      simp only [bind, Except.bind, pure, Except.pure, String.ofList_toList]
    · rw [readDate_of_not_isStamp stamp, if_pos stamp, String.ofList_toList]
      rfl
  · have other := mt (toInt_version_eq_one_iff h).mp supported
    rw [readVersion_of_spells_other version other, if_pos supported]
    rfl

theorem parse_render_of_wellFormed (wellFormed : h.WellFormed) : parse h.render = .ok h := by
  rw [parse_render_of_colonless wellFormed.colonless, if_neg (not_not_intro wellFormed.supported),
    if_neg (not_not_intro wellFormed.stamp)]

theorem wellFormed_of_parse (read : parse text = .ok h) : h.WellFormed := by
  obtain ⟨version, bits, extension, digits, divided, supported, _, _, stamp, _⟩ :=
    parse_eq_ok_iff.mp read
  refine ⟨?_, supported, stamp⟩
  rintro (date | resource | random)
  · exact divided.colonless h.date.toList (by simp) date
  · exact divided.colonless h.resource.toList (by simp) resource
  · exact divided.colonless h.random.toList (by simp) random

/-- **Reading undoes writing, up to an exact boundary.**  The text of any header whatsoever is read as
the first of four cases that applies to its fields.  The headers of the last case are all those that
reading gives, so reading, writing and reading again is no different from reading once. -/
theorem parse_render :
    (∀ h : Header, parse h.render =
      if ':' ∈ h.date.toList ∨ ':' ∈ h.resource.toList ∨ ':' ∈ h.random.toList then
        .error (.malformed h.render)
      else if h.version ≠ 1 then .error (.unsupportedVersion (Int64.ofNat h.version.toNat))
      else if ¬ IsStamp h.date.toList then .error (.invalidDate h.date)
      else .ok h) ∧
    (∀ h : Header, (∃ text, parse text = .ok h) ↔ h.WellFormed) ∧
    ∀ text, (parse text >>= fun h => parse h.render) = parse text := by
  refine ⟨fun h => ?_, fun h => ⟨?_, ?_⟩, fun text => ?_⟩
  · by_cases colon : h.HasColon
    · rw [parse_render_of_hasColon colon]
      exact (if_pos colon).symm
    · rw [parse_render_of_colonless colon]
      exact (if_neg colon).symm
  · rintro ⟨text, read⟩
    exact wellFormed_of_parse read
  · intro wellFormed
    exact ⟨h.render, parse_render_of_wellFormed wellFormed⟩
  · cases read : parse text with
    | error fault => rfl
    | ok h => exact parse_render_of_wellFormed (wellFormed_of_parse read)

end Hashgate.Header
