import Hashgate.Proofs.Text.Ascii
import Hashgate.Proofs.Text.Lossy

/-! # Octets in pieces

The lossy reader may be inside a character when a separator comes.  It then gives the character up and
reads the separator as itself: an octet below 128 is no part of a longer character, so none is ever
swallowed, and none is made up.  Therefore it makes no difference whether octets are cut at their
separators and the pieces are read, or the octets are read and the text is cut.

* `Reader.Guarded` — a reader that takes no ASCII octet for the middle of a character.
* `decodeLossy_append_cons` — reading starts afresh after an ASCII octet.
* `Decoded`, `decoded_decodeLossy` — which characters are read, and from what.
* `count_decodeLossy`, `isAscii_decodeLossy_iff` — nothing but an ASCII octet is read as ASCII.
* `split_decodeLossy` — the fields of what is read are the pieces, each read by itself.
-/

namespace Hashgate.Utf8

variable {reader next : Reader} {b : UInt8} {octets : List UInt8}

/-! ## Starting afresh -/

/-- Whatever octet it waits for, it is no ASCII octet. -/
def Reader.Guarded : Reader → Prop
  | .start => True
  | .within _ _ _ low _ => 0x80 ≤ low.toNat

theorem guarded_of_advance (advances : reader.step b = .advance next) : next.Guarded := by
  cases reader <;> grind [Reader.step, Reader.lead, Reader.Guarded]

theorem step_start_ascii (ascii : b.toNat < 0x80) :
    Reader.start.step b = .complete (Char.ofNat b.toNat) := by
  rw [Reader.step, lead_eq, if_pos ascii]

theorem step_inside_ascii (inside : reader ≠ .start) (guarded : reader.Guarded)
    (ascii : b.toNat < 0x80) : reader.step b = .refuse := by
  cases reader with
  | start => exact absurd rfl inside
  | within owed seen bits low high =>
    have below : ¬ (low ≤ b ∧ b ≤ high) := by
      rintro ⟨above, -⟩
      have least : 0x80 ≤ low.toNat := guarded
      have more := octet_le_iff.mp above
      omega
    exact if_neg below

/-- An octet that breaks a character off is read once more. -/
theorem feed_refuse (inside : reader ≠ .start) (refuses : reader.step b = .refuse) :
    reader.feed b = (replacement :: (Reader.start.feed b).1, (Reader.start.feed b).2) := by
  cases reader with
  | start => exact absurd rfl inside
  | within =>
    cases again : Reader.start.step b with
    | complete c =>
      have leads : Reader.lead b = .complete c := again
      simp only [Reader.feed, refuses, again, leads]
    | advance next =>
      have leads : Reader.lead b = .advance next := again
      simp only [Reader.feed, refuses, again, leads]
    | refuse =>
      have leads : Reader.lead b = .refuse := again
      simp only [Reader.feed, refuses, again, leads]

theorem readAll_refuse (inside : reader ≠ .start) (refuses : reader.step b = .refuse)
    (rest : List UInt8) :
    reader.readAll (b :: rest) = replacement :: Reader.start.readAll (b :: rest) := by
  rw [Reader.readAll, Reader.readAll, feed_refuse inside refuses]
  rfl

theorem finish_inside (inside : reader ≠ .start) : reader.finish = [replacement] := by
  cases reader with
  | start => exact absurd rfl inside
  | within => rfl

theorem readAll_cons_ascii (guarded : reader.Guarded) (ascii : b.toNat < 0x80)
    (rest : List UInt8) :
    reader.readAll (b :: rest) =
      reader.finish ++ Char.ofNat b.toNat :: Reader.start.readAll rest := by
  have afresh : Reader.start.readAll (b :: rest) =
      Char.ofNat b.toNat :: Reader.start.readAll rest := by
    rw [Reader.readAll, feed_complete (step_start_ascii ascii)]
    rfl
  by_cases inside : reader = .start
  · rw [inside]
    exact afresh
  · rw [readAll_refuse inside (step_inside_ascii inside guarded ascii), afresh, finish_inside inside]
    rfl

theorem guarded_feed (reader : Reader) (b : UInt8) : (reader.feed b).2.Guarded := by
  have unrefused (reader : Reader) (takes : reader.step b ≠ .refuse) :
      (reader.feed b).2.Guarded := by
    cases step : reader.step b with
    | complete c =>
      rw [feed_complete step]
      exact True.intro
    | advance next =>
      rw [feed_advance step]
      exact guarded_of_advance step
    | refuse => exact absurd step takes
  have fromStart : (Reader.start.feed b).2.Guarded := by
    by_cases refuses : Reader.start.step b = .refuse
    · simp only [Reader.feed, refuses]
      exact True.intro
    · exact unrefused .start refuses
  by_cases inside : reader = .start
  · rw [inside]
    exact fromStart
  by_cases refuses : reader.step b = .refuse
  · rw [feed_refuse inside refuses]
    exact fromStart
  · exact unrefused reader refuses

theorem readAll_append_cons (guarded : reader.Guarded) (ascii : b.toNat < 0x80)
    (front rest : List UInt8) :
    reader.readAll (front ++ b :: rest) =
      reader.readAll front ++ Char.ofNat b.toNat :: Reader.start.readAll rest := by
  induction front generalizing reader with
  | nil => exact readAll_cons_ascii guarded ascii rest
  | cons first front ih =>
    rw [List.cons_append, Reader.readAll, Reader.readAll, ih (guarded_feed reader first),
      List.append_assoc]

/-- Whatever comes before an ASCII octet, reading starts afresh after it. -/
theorem decodeLossy_append_cons (ascii : b.toNat < 0x80) (front rest : List UInt8) :
    decodeLossy (front ++ b :: rest) =
      decodeLossy front ++ Char.ofNat b.toNat :: decodeLossy rest := by
  have guarded : Reader.start.Guarded := True.intro
  exact readAll_append_cons guarded ascii front rest

/-! ## What is read -/

/-- The characters that octets are read as, one by one: what is written for a character is read as
that character, and some octets beyond ASCII are read as a replacement. -/
inductive Decoded : List UInt8 → List Char → Prop
  | done : Decoded [] []
  | char {c : Char} {rest : List UInt8} {text : List Char} : Decoded rest text →
      Decoded (String.utf8EncodeChar c ++ rest) (c :: text)
  | broken {first rest : List UInt8} {text : List Char} : (∀ b ∈ first, 0x80 ≤ b.toNat) →
      first ≠ [] → Decoded rest text → Decoded (first ++ rest) (replacement :: text)

/-- Inside a character reading comes to its end, or to an octet that breaks it off. -/
theorem exists_readAll_inside (inside : reader ≠ .start) (guarded : reader.Guarded)
    (octets : List UInt8) :
    ∃ first rest c, octets = first ++ rest ∧
      reader.readAll octets = c :: Reader.start.readAll rest ∧
      (Reader.Reads reader first c ∨ c = replacement ∧ ∀ b ∈ first, 0x80 ≤ b.toNat) := by
  induction octets generalizing reader with
  | nil =>
    cases reader with
    | start => exact absurd rfl inside
    | within => exact ⟨[], [], replacement, rfl, rfl, .inr ⟨rfl, List.forall_mem_nil _⟩⟩
  | cons b octets ih =>
    cases step : reader.step b with
    | complete c =>
      refine ⟨[b], octets, c, rfl, ?_, .inl (.last step)⟩
      rw [Reader.readAll, feed_complete step]
      rfl
    | advance next =>
      have stillInside : next ≠ .start := by
        rintro rfl
        exact step_ne_advance_start reader b step
      obtain ⟨first, rest, c, rfl, read, ends⟩ := ih stillInside (guarded_of_advance step)
      refine ⟨b :: first, rest, c, rfl, ?_, ?_⟩
      · rw [Reader.readAll, feed_advance step]
        exact read
      · obtain reads | ⟨rfl, beyond⟩ := ends
        · exact .inl (.more step reads)
        · refine .inr ⟨rfl, List.forall_mem_cons.mpr ⟨?_, beyond⟩⟩
          -- A guarded reader goes on with no ASCII octet.
          apply Nat.le_of_not_lt
          intro ascii
          rw [step_inside_ascii inside guarded ascii] at step
          cases step
    | refuse =>
      exact ⟨[], b :: octets, replacement, rfl, readAll_refuse inside step octets,
        .inr ⟨rfl, List.forall_mem_nil _⟩⟩

theorem exists_decodeLossy_cons (b : UInt8) (octets : List UInt8) :
    ∃ first rest c, b :: octets = first ++ rest ∧ first ≠ [] ∧
      decodeLossy (b :: octets) = c :: decodeLossy rest ∧
      (first = String.utf8EncodeChar c ∨ c = replacement ∧ ∀ b ∈ first, 0x80 ≤ b.toNat) := by
  have beyond (other : ∀ c, Reader.start.step b ≠ .complete c) : 0x80 ≤ b.toNat :=
    Nat.le_of_not_lt fun ascii => other _ (step_start_ascii ascii)
  cases step : Reader.start.step b with
  | complete c =>
    refine ⟨[b], octets, c, rfl, List.cons_ne_nil _ _, ?_, .inl (reads_start_iff.mp (.last step))⟩
    rw [decodeLossy, Reader.readAll, feed_complete step]
    rfl
  | advance next =>
    have inside : next ≠ .start := by
      rintro rfl
      exact step_ne_advance_start .start b step
    obtain ⟨first, rest, c, rfl, read, ends⟩ :=
      exists_readAll_inside inside (guarded_of_advance step) octets
    refine ⟨b :: first, rest, c, rfl, List.cons_ne_nil _ _, ?_, ?_⟩
    · rw [decodeLossy, Reader.readAll, feed_advance step]
      exact read
    · obtain reads | ⟨rfl, others⟩ := ends
      · exact .inl (reads_start_iff.mp (.more step reads))
      · exact .inr ⟨rfl, List.forall_mem_cons.mpr ⟨beyond (by simp [step]), others⟩⟩
  | refuse =>
    refine ⟨[b], octets, replacement, rfl, List.cons_ne_nil _ _, ?_,
      .inr ⟨rfl, List.forall_mem_singleton.mpr (beyond (by simp [step]))⟩⟩
    rw [decodeLossy, Reader.readAll]
    simp only [Reader.feed, step]
    rfl

theorem decoded_decodeLossy (octets : List UInt8) : Decoded octets (decodeLossy octets) := by
  induction length : octets.length using Nat.strong_induction_on generalizing octets with
  | _ n ih =>
    cases octets with
    | nil => exact .done
    | cons b octets =>
      obtain ⟨first, rest, c, equal, nonempty, read, ends⟩ := exists_decodeLossy_cons b octets
      have shorter : rest.length < n := by
        have first := List.length_pos_iff.mpr nonempty
        rw [← length, equal, List.length_append]
        omega
      rw [read, equal]
      obtain rfl | ⟨rfl, beyond⟩ := ends
      · exact .char (ih _ shorter rest rfl)
      · exact .broken beyond nonempty (ih _ shorter rest rfl)

/-! ## ASCII -/

theorem mem_tail {owed number : Nat} (member : b ∈ tail owed number) : 0x80 ≤ b.toNat := by
  induction owed with
  | zero => cases member
  | succ owed ih =>
    rw [tail_succ, List.mem_cons] at member
    obtain rfl | member := member
    · rw [toNat_octet (by omega)]
      omega
    · exact ih member

/-- The octets of a character beyond ASCII are beyond ASCII. -/
theorem le_of_mem_encodeChar {c : Char} (beyond : 0x80 ≤ c.toNat)
    (member : b ∈ String.utf8EncodeChar c) : 0x80 ≤ b.toNat := by
  rw [encodeChar_eq, if_neg (by omega)] at member
  split at member
  · obtain rfl | member := List.mem_cons.mp member
    · rw [toNat_octet (by omega)]
      omega
    · exact mem_tail member
  split at member
  · obtain rfl | member := List.mem_cons.mp member
    · rw [toNat_octet (by omega)]
      omega
    · exact mem_tail member
  · obtain rfl | member := List.mem_cons.mp member
    · rw [toNat_octet (by omega)]
      omega
    · exact mem_tail member

theorem encodeChar_ascii {c : Char} (ascii : c.toNat < 0x80) :
    String.utf8EncodeChar c = [UInt8.ofNat c.toNat] := by
  rw [encodeChar_eq, if_pos (by omega)]

theorem count_encodeChar (ascii : b.toNat < 0x80) (c : Char) :
    (String.utf8EncodeChar c).count b = [c].count (Char.ofNat b.toNat) := by
  have back : (Char.ofNat b.toNat).toNat = b.toNat := toNat_char (.inl (by omega))
  by_cases small : c.toNat < 0x80
  · have same : UInt8.ofNat c.toNat = b ↔ c = Char.ofNat b.toNat := by
      rw [← UInt8.toNat_inj, toNat_octet (by omega), ← back, Char.toNat_inj]
      simp
    rw [encodeChar_ascii small, List.count_singleton, List.count_singleton]
    simp only [beq_iff_eq, same]
  · have noOctet : b ∉ String.utf8EncodeChar c := fun member => by
      have beyond := le_of_mem_encodeChar (by omega) member
      omega
    have noChar : Char.ofNat b.toNat ∉ [c] := by
      rw [List.mem_singleton]
      rintro rfl
      omega
    rw [List.count_eq_zero.mpr noOctet, List.count_eq_zero.mpr noChar]

theorem Decoded.count_eq {text : List Char} (decoded : Decoded octets text)
    (ascii : b.toNat < 0x80) : text.count (Char.ofNat b.toNat) = octets.count b := by
  have back : (Char.ofNat b.toNat).toNat = b.toNat := toNat_char (.inl (by omega))
  induction decoded with
  | done => rfl
  | char _ ih => rw [List.count_append, count_encodeChar ascii, ← ih, List.count_cons, Nat.add_comm,
      List.count_singleton]
  | @broken first _ _ beyond _ _ ih =>
    have noOctet : b ∉ first := fun member => by
      have more := beyond b member
      omega
    have noChar : replacement ≠ Char.ofNat b.toNat := by
      intro same
      have number := congrArg Char.toNat same
      rw [back] at number
      have large : replacement.toNat = 0xFFFD := rfl
      omega
    rw [List.count_append, List.count_eq_zero.mpr noOctet, Nat.zero_add, List.count_cons_of_ne noChar,
      ih]

/-- No ASCII octet is lost, and none is made up. -/
theorem count_decodeLossy (ascii : b.toNat < 0x80) (octets : List UInt8) :
    (decodeLossy octets).count (Char.ofNat b.toNat) = octets.count b :=
  (decoded_decodeLossy octets).count_eq ascii

theorem Decoded.isAscii_iff {text : List Char} (decoded : Decoded octets text) :
    IsAscii text ↔ ∀ b ∈ octets, b.toNat < 0x80 := by
  unfold IsAscii
  induction decoded with
  | done => simp
  | @char c _ _ _ ih =>
    rw [List.forall_mem_cons, List.forall_mem_append, ih]
    refine and_congr_left fun _ => ?_
    by_cases small : c.toNat < 0x80
    · rw [encodeChar_ascii small, List.forall_mem_singleton, toNat_octet (by omega)]
    · refine iff_of_false small fun all => ?_
      obtain ⟨b, member⟩ := List.exists_mem_of_ne_nil (String.utf8EncodeChar c) String.utf8EncodeChar_ne_nil
      have beyond := le_of_mem_encodeChar (Nat.le_of_not_lt small) member
      exact Nat.not_lt.mpr beyond (all b member)
  | @broken first _ _ beyond nonempty _ _ =>
    rw [List.forall_mem_cons, List.forall_mem_append]
    obtain ⟨b, member⟩ := List.exists_mem_of_ne_nil first nonempty
    refine iff_of_false (fun all => absurd all.1 (by decide)) fun all => ?_
    exact Nat.not_lt.mpr (beyond b member) (all.1 b member)

theorem isAscii_decodeLossy_iff :
    IsAscii (decodeLossy octets) ↔ ∀ b ∈ octets, b.toNat < 0x80 :=
  (decoded_decodeLossy octets).isAscii_iff

/-! ## Pieces -/

/-- A list is one piece without a separator, or such a piece, a separator, and another list. -/
theorem piecesInduction {α : Type} [DecidableEq α] (separator : α) {motive : List α → Prop}
    (last : ∀ piece, separator ∉ piece → motive piece)
    (more : ∀ piece rest, separator ∉ piece → motive rest → motive (piece ++ separator :: rest))
    (list : List α) : motive list := by
  induction length : list.length using Nat.strong_induction_on generalizing list with
  | _ n ih =>
    by_cases member : separator ∈ list
    · obtain ⟨piece, rest, rfl, absent⟩ := List.eq_append_cons_of_mem member
      refine more piece rest absent (ih _ ?_ rest rfl)
      rw [← length, List.length_append, List.length_cons]
      omega
    · exact last list member

theorem not_mem_of_mem_splitOn {piece : List UInt8} (member : piece ∈ octets.splitOn b) :
    b ∉ piece := by
  induction octets using piecesInduction b with
  | last whole absent =>
    rw [List.splitOn_eq_singleton absent, List.mem_singleton] at member
    rwa [member]
  | more first rest absent ih =>
    rw [List.splitOn_append_cons_self_of_not_mem absent, List.mem_cons] at member
    obtain rfl | member := member
    · exact absent
    · exact ih member

theorem length_splitOn (b : UInt8) (octets : List UInt8) :
    (octets.splitOn b).length = octets.count b + 1 := by
  induction octets using piecesInduction b with
  | last whole absent => rw [List.splitOn_eq_singleton absent, List.count_eq_zero.mpr absent]; rfl
  | more first rest absent ih =>
    rw [List.splitOn_append_cons_self_of_not_mem absent, List.length_cons, ih, List.count_append,
      List.count_eq_zero.mpr absent, List.count_cons_self]
    omega

/-- Cutting and reading can be done in either order. -/
theorem split_decodeLossy (ascii : b.toNat < 0x80) (octets : List UInt8) :
    Fields.split (Char.ofNat b.toNat) (decodeLossy octets) = (octets.splitOn b).map decodeLossy := by
  have absent_iff (piece : List UInt8) : Char.ofNat b.toNat ∉ decodeLossy piece ↔ b ∉ piece := by
    rw [← List.count_eq_zero, ← List.count_eq_zero, count_decodeLossy ascii]
  induction octets using piecesInduction b with
  | last whole absent =>
    rw [List.splitOn_eq_singleton absent, Fields.split_of_not_mem ((absent_iff whole).mpr absent)]
    rfl
  | more first rest absent ih =>
    rw [decodeLossy_append_cons ascii, Fields.split_append ((absent_iff first).mpr absent), ih,
      List.splitOn_append_cons_self_of_not_mem absent]
    rfl

end Hashgate.Utf8
