import Hashgate.Proofs.Json.Record
import Hashgate.Proofs.Quote.Store
import Hashgate.Quote.File

/-! # Files of quotes, however they are written

A quote can be written in many ways: its members in any order and between any blanks, each string with any
escapes, an unknown author as no member or as `null`, and members with other names anywhere.  All of these
are read as the quote, so the quotes of a file make the store that the same quotes make when nobody has
written them down.

* `WritesQuote`, `WritesFile` — the texts of a quote, and of a file of quotes.
* `exists_writesFile` — any quotes can be written to a file.
* `takesMembers_holding` — which fields of a quote some of its members fill.
* `takes_shape_read` — a quote is read in whichever way it is written.
* `ofFile_decides` — the store of a file.
-/

namespace Hashgate.Quote

open Json
open Fields (join)

variable {q : Quote} {quotes : List Quote} {text member : List Char}

/-! ## The texts of a quote -/

/-- What a member of a quote is about. -/
inductive Field where
  | id
  | text
  | author
  /-- Something that no quote has. -/
  | other
  deriving DecidableEq, Repr

/-- An author, or none. -/
inductive WritesAuthor : Option String → List Char → Prop
  | some {value : List Char} {author : String} : SpellsLabel value author → WritesAuthor (some author) value
  | none {before after : List Char} : IsBlanks before → IsBlanks after →
      WritesAuthor none (before ++ ['n', 'u', 'l', 'l'] ++ after)

inductive WritesMember (q : Quote) : Field → List Char → Prop
  | id {label value : List Char} : SpellsLabel label "id" → SpellsLabel value q.id →
      WritesMember q .id (label ++ ':' :: value)
  | text {label value : List Char} : SpellsLabel label "text" → SpellsLabel value q.text →
      WritesMember q .text (label ++ ':' :: value)
  | author {label value : List Char} : SpellsLabel label "author" → WritesAuthor q.author value →
      WritesMember q .author (label ++ ':' :: value)
  | other {label value : List Char} {name : String} : SpellsLabel label name →
      name ∉ ["id", "text", "author"] → IsJson value → WritesMember q .other (label ++ ':' :: value)

/-- An object with the members of a quote in any order, each of them once, and with any other members. -/
inductive WritesQuote (q : Quote) : List Char → Prop
  | mk {before after : List Char} {members : List (Field × List Char)} : IsBlanks before →
      (∀ member ∈ members, WritesMember q member.1 member.2) →
      (∀ field ≠ .other, (members.map Prod.fst).count field ≤ 1) →
      .id ∈ members.map Prod.fst → .text ∈ members.map Prod.fst →
      (q.author ≠ none → .author ∈ members.map Prod.fst) → IsBlanks after →
      WritesQuote q (before ++ ('\x7b' :: (join ',' (members.map Prod.snd) ++ ['\x7d'])) ++ after)

inductive WritesQuotes : List Quote → List Char → Prop
  | none {before inner after : List Char} : IsBlanks before → IsBlanks inner → IsBlanks after →
      WritesQuotes [] (before ++ ('[' :: (inner ++ [']'])) ++ after)
  | some {before after : List Char} {texts : List (List Char)} {quotes : List Quote} : IsBlanks before →
      quotes ≠ [] → List.Forall₂ WritesQuote quotes texts → IsBlanks after →
      WritesQuotes quotes (before ++ ('[' :: (join ',' texts ++ [']'])) ++ after)

/-- An object with the array of some quotes. -/
inductive WritesFile (quotes : List Quote) : List Char → Prop
  | mk {before label array after : List Char} : IsBlanks before → SpellsLabel label "quotes" →
      WritesQuotes quotes array → IsBlanks after →
      WritesFile quotes (before ++ ('\x7b' :: (label ++ ':' :: array ++ ['\x7d'])) ++ after)

theorem exists_writesAuthor (author : Option String) : ∃ text, WritesAuthor author text := by
  cases author with
  | none => exact ⟨_, .none isBlanks_nil isBlanks_nil⟩
  | some author =>
    obtain ⟨value, spells⟩ := exists_spellsLabel author
    exact ⟨value, .some spells⟩

theorem exists_writesQuote (q : Quote) : ∃ text, WritesQuote q text := by
  obtain ⟨id, spellsId⟩ := exists_spellsLabel q.id
  obtain ⟨words, spellsText⟩ := exists_spellsLabel q.text
  obtain ⟨author, writesAuthor⟩ := exists_writesAuthor q.author
  obtain ⟨idLabel, spellsIdLabel⟩ := exists_spellsLabel "id"
  obtain ⟨textLabel, spellsTextLabel⟩ := exists_spellsLabel "text"
  obtain ⟨authorLabel, spellsAuthorLabel⟩ := exists_spellsLabel "author"
  have writes : ∀ member ∈ [(Field.id, idLabel ++ ':' :: id), (.text, textLabel ++ ':' :: words),
      (.author, authorLabel ++ ':' :: author)], WritesMember q member.1 member.2 := by
    simp only [List.forall_mem_cons, List.not_mem_nil, false_implies, implies_true, and_true]
    exact ⟨.id spellsIdLabel spellsId, .text spellsTextLabel spellsText,
      .author spellsAuthorLabel writesAuthor⟩
  have once : ∀ field, [Field.id, .text, .author].count field ≤ 1 := by
    intro field
    cases field <;> decide
  exact ⟨_, .mk isBlanks_nil writes (fun field _ => once field) (by simp) (by simp) (fun _ => by simp)
    isBlanks_nil⟩

theorem exists_writesQuotes (quotes : List Quote) : ∃ text, WritesQuotes quotes text := by
  have each : ∀ quotes, ∃ texts, List.Forall₂ WritesQuote quotes texts := by
    intro quotes
    induction quotes with
    | nil => exact ⟨[], .nil⟩
    | cons q rest ih =>
      obtain ⟨text, writes⟩ := exists_writesQuote q
      obtain ⟨texts, writesRest⟩ := ih
      exact ⟨_, .cons writes writesRest⟩
  obtain ⟨texts, writes⟩ := each quotes
  by_cases empty : quotes = []
  · subst empty
    exact ⟨_, .none isBlanks_nil isBlanks_nil isBlanks_nil⟩
  · exact ⟨_, .some isBlanks_nil empty writes isBlanks_nil⟩

/-- Any quotes can be written to a file. -/
theorem exists_writesFile (quotes : List Quote) : ∃ text, WritesFile quotes text := by
  obtain ⟨label, spells⟩ := exists_spellsLabel "quotes"
  obtain ⟨array, writes⟩ := exists_writesQuotes quotes
  exact ⟨_, .mk isBlanks_nil spells writes isBlanks_nil⟩

/-! ## Reading a quote -/

/-- The draft of a quote of which some fields have been read. -/
def Draft.holding (q : Quote) (fields : List Field) : Draft where
  id := if .id ∈ fields then some q.id else none
  text := if .text ∈ fields then some q.text else none
  author := if .author ∈ fields then some q.author else none

/-- A field that has not been read is put where it belongs. -/
theorem takesMember_slotFor {σ β : Type} {slot : String → σ → Slot σ} {s : σ} {read : Reader β} {b : β}
    {put : β → σ} {label value : List Char} {name : String} (spells : SpellsLabel label name)
    (free : slot name s = slotFor none read put) (takes : Takes read value b) :
    TakesMember slot (label ++ ':' :: value) s (put b) := by
  refine .field spells free fun more p ends => ?_
  obtain ⟨c, reads, stands⟩ := takes more p ends
  exact ⟨c, by rw [reads]; rfl, stands⟩

theorem WritesAuthor.takes {author : Option String} (writes : WritesAuthor author text) :
    Takes readTextOrNull text author := by
  cases writes with
  | some spells => exact takes_readTextOrNull spells
  | none before after => exact takes_readTextOrNull_null before after

/-- A member that has not been read adds its field to the draft. -/
theorem takesMember_holding {field : Field} {fields : List Field} (writes : WritesMember q field member)
    (new : field ≠ .other → field ∉ fields) :
    TakesMember Draft.slot member (.holding q fields) (.holding q (fields ++ [field])) := by
  cases writes with
  | id spells value =>
    have free : Draft.slot "id" (.holding q fields) =
        slotFor none readText fun id => { Draft.holding q fields with id := some id } := by
      simp [Draft.slot, Draft.holding, new]
    have takes := takesMember_slotFor spells free (takes_readText value)
    simpa [Draft.holding] using takes
  | text spells value =>
    have free : Draft.slot "text" (.holding q fields) =
        slotFor none readText fun text => { Draft.holding q fields with text := some text } := by
      simp [Draft.slot, Draft.holding, new]
    have takes := takesMember_slotFor spells free (takes_readText value)
    simpa [Draft.holding] using takes
  | author spells value =>
    have free : Draft.slot "author" (.holding q fields) =
        slotFor none readTextOrNull fun author => { Draft.holding q fields with author := some author } := by
      simp [Draft.slot, Draft.holding, new]
    have takes := takesMember_slotFor spells free value.takes
    simpa [Draft.holding] using takes
  | @other label value name spells others isJson =>
    have unknown : Draft.slot name (.holding q fields) = .unknown := by
      simp only [List.mem_cons, List.not_mem_nil, or_false, not_or] at others
      simp [Draft.slot, others]
    have takes := TakesMember.unknown spells unknown isJson
    simpa [Draft.holding] using takes

/-- Members of which none has been read add all their fields to the draft. -/
theorem takesMembers_holding {members : List (Field × List Char)} (fields : List Field)
    (writes : ∀ member ∈ members, WritesMember q member.1 member.2)
    (once : ∀ field ≠ .other, (fields ++ members.map Prod.fst).count field ≤ 1) :
    TakesMembers Draft.slot (members.map Prod.snd) (.holding q fields)
      (.holding q (fields ++ members.map Prod.fst)) := by
  -- Each member goes from those that are left to those that have been read.
  induction members generalizing fields with
  | nil => simpa using TakesMembers.nil
  | cons member rest ih =>
    obtain ⟨first, others⟩ := List.forall_mem_cons.mp writes
    have new : member.1 ≠ .other → member.1 ∉ fields := by
      intro known read
      have twice := once member.1 known
      have before := List.count_pos_iff.mpr read
      simp only [List.map_cons, List.count_append, List.count_cons_self] at twice
      omega
    rw [List.map_cons, List.append_cons] at once
    have restTakes := ih _ others once
    rw [List.append_assoc, List.singleton_append] at restTakes
    exact .cons (takesMember_holding first new) restTakes

theorem build_holding {fields : List Field} (id : .id ∈ fields) (text : .text ∈ fields)
    (author : q.author ≠ none → .author ∈ fields) : (Draft.holding q fields).build = .ok q := by
  obtain ⟨_, _, known⟩ := q
  cases known with
  | none => by_cases told : .author ∈ fields <;> simp [Draft.build, Draft.holding, id, text, told]
  | some known => simp [Draft.build, Draft.holding, id, text, author]

/-- A quote is read in whichever way it is written. -/
theorem takes_shape_read (writes : WritesQuote q text) : Takes shape.read text q := by
  obtain @⟨before, after, members, blanks, writes, once, id, words, author, blanksAfter⟩ := writes
  have takes : TakesMembers shape.slot (members.map Prod.snd) shape.start
      (.holding q (members.map Prod.fst)) := takesMembers_holding [] writes once
  have nonempty : members.map Prod.snd ≠ [] := by
    rintro empty
    rw [List.map_eq_nil_iff.mp empty] at id
    cases id
  exact (shape.takes_read takes nonempty (build_holding id words author)).padded shape.read_skipBlanks blanks
    blanksAfter

theorem WritesQuote.starts (writes : WritesQuote q text) : Starts text := by
  obtain ⟨blanks, _⟩ := writes
  exact ((starts_cons ⟨rfl, by decide, by decide⟩ _).padded blanks).append _

/-! ## Reading a file -/

theorem takes_readList_shape (writes : WritesQuotes quotes text) :
    Takes (readList shape.read) text quotes := by
  cases writes with
  | none before inner after =>
    exact (takes_readList_nil inner).padded (readList_skipBlanks shape.read) before after
  | some before some each after =>
    have takes : TakesEach shape.read _ quotes :=
      each.flip.imp fun text q writes => ⟨writes.starts, takes_shape_read writes⟩
    refine (takes_readList shape.read_skipBlanks takes ?_).padded (readList_skipBlanks shape.read) before after
    rintro rfl
    cases takes
    exact some rfl

theorem takes_fileShape_read (writes : WritesFile quotes text) : Takes fileShape.read text quotes := by
  obtain ⟨before, spells, array, after⟩ := writes
  have free : fileSlot "quotes" none = slotFor none (readList shape.read) some := rfl
  have member := takesMember_slotFor spells free (takes_readList_shape array)
  exact (fileShape.takes_read (.cons member .nil) (List.cons_ne_nil _ _) rfl).padded
    fileShape.read_skipBlanks before after

theorem readFile_of_writes {text : String} (writes : WritesFile quotes text.toList) :
    readFile text = .ok quotes :=
  readWhole_of_takes (takes_fileShape_read writes)

end Hashgate.Quote

namespace Hashgate.Store

/-- **A file of quotes makes the store of the quotes that were written to it.**  In whichever way they are
written, the file makes the store of all of them if no two share a name, and otherwise fails with the first
name that comes again, however differently it was written there. -/
theorem ofFile_decides {quotes : List Quote} {text : String} (writes : Quote.WritesFile quotes text.toList) :
    ofFile text = ofQuotes quotes ∧
    ((quotes.map (·.id)).Nodup → ∃ store, ofFile text = .ok store ∧ Holds store quotes) ∧
    (¬ (quotes.map (·.id)).Nodup → ∃ id, ComesAgain quotes id ∧
      ofFile text = .error ⟨.internal, "duplicate quote id " ++ id, .unknown⟩) := by
  have same : ofFile text = ofQuotes quotes := by
    rw [ofFile, Quote.readFile_of_writes writes]
  rw [same]
  refine ⟨rfl, fun distinct => ?_, exists_ofQuotes_eq_error⟩
  obtain ⟨store, filled⟩ := exists_ofQuotes_eq_ok distinct
  exact ⟨store, filled, holds_of_ofQuotes filled⟩

/-- A file with the texts of some quotes. -/
def fileOf (texts : List (List Char)) : String :=
  String.ofList (" \x7b \"quotes\":[".toList ++ Fields.join ',' texts ++ "]\x7d\n".toList)

open Quote Json in
theorem writesFile_fileOf {quotes : List Quote} {texts : List (List Char)} (nonempty : quotes ≠ [])
    (writes : List.Forall₂ WritesQuote quotes texts) : WritesFile quotes (fileOf texts).toList := by
  have name : SpellsText "\"quotes\"".toList "quotes" :=
    @SpellsText.mk "quotes".toList "quotes" (spellsChars_self (by decide))
  have label : SpellsLabel " \"quotes\"".toList "quotes" :=
    @SpellsLabel.mk [' '] _ [] _ (by decide) name isBlanks_nil
  have array := @WritesQuotes.some [] [] texts quotes isBlanks_nil nonempty writes isBlanks_nil
  have file := @WritesFile.mk quotes [' '] _ _ ['\n'] (by decide) label array (by decide)
  have text : (fileOf texts).toList =
      " \x7b \"quotes\":[".toList ++ Fields.join ',' texts ++ "]\x7d\n".toList := String.toList_ofList
  rw [text]
  simpa using file

/-- No author, a character of two units, and a name. -/
def smiling : List Char := "\x7b\"author\": null,\"text\":\"\\ud83d\\uDE00\",\"id\":\"a/b\"\x7d".toList

/-- A member that no quote has, the same name with escapes, and no author. -/
def ranked : List Char :=
  " \x7b\"rank\":[1,-2.5e3,true],\"id\":\"\\u0061\\/b\",\"author\":\"Lao\",\"text\":\"!\"\x7d".toList

open Quote Json in
theorem writesQuote_smiling : WritesQuote ⟨"a/b", "😀", none⟩ smiling := by
  have high : SpellsUnit "d83d".toList 0xD83D :=
    @SpellsUnit.mk _ _ _ _ 13 8 3 13 (.inl rfl) (.inl rfl) (.inl rfl) (.inl rfl)
  have low : SpellsUnit "DE00".toList 0xDE00 :=
    @SpellsUnit.mk _ _ _ _ 13 14 0 0 (.inr rfl) (.inr rfl) (.inl rfl) (.inl rfl)
  have smile : SpellsText "\"\\ud83d\\uDE00\"".toList "😀" :=
    .mk (s := "😀") (.cons (.pair (c := '😀') (by decide) high low) .nil)
  have members : ∀ member ∈ [(Field.author, "\"author\": null".toList),
      (.text, "\"text\":\"\\ud83d\\uDE00\"".toList), (.id, "\"id\":\"a/b\"".toList)],
      WritesMember ⟨"a/b", "😀", none⟩ member.1 member.2 := by
    simp only [List.forall_mem_cons, List.not_mem_nil, false_implies, implies_true, and_true]
    refine ⟨?_, ?_, ?_⟩
    · exact .author (spellsLabel_self "author" (by decide))
        (@WritesAuthor.none [' '] [] (by decide) isBlanks_nil)
    · exact .text (spellsLabel_self "text" (by decide)) (.mk isBlanks_nil smile isBlanks_nil)
    · exact .id (spellsLabel_self "id" (by decide)) (spellsLabel_self "a/b" (by decide))
  have once : ∀ field, [Field.author, .text, .id].count field ≤ 1 := by
    intro field
    cases field <;> decide
  exact .mk isBlanks_nil members (fun field _ => once field) (by decide) (by decide) (by decide) isBlanks_nil

open Quote Json in
theorem writesQuote_ranked : WritesQuote ⟨"a/b", "!", some "Lao"⟩ ranked := by
  have letter : SpellsUnit "0061".toList 'a'.toNat :=
    @SpellsUnit.mk _ _ _ _ 0 0 6 1 (.inl rfl) (.inl rfl) (.inl rfl) (.inl rfl)
  have name : SpellsText "\"\\u0061\\/b\"".toList "a/b" :=
    .mk (s := "a/b") (.cons (.unit (c := 'a') letter) (.cons (.letter (by decide))
      (.cons (.plain (by decide) (by decide) (by decide)) .nil)))
  have one : IsJson "1".toList := .number (.plain (@IsUnsigned.mk ['1'] [] [] (.digits rfl (by decide) nofun)
    .none .none))
  have real : IsJson "-2.5e3".toList :=
    .number (.minus (@IsUnsigned.mk ['2'] ['.', '5'] ['e', '3'] (.digits rfl (by decide) nofun)
      (.some ⟨List.cons_ne_nil _ _, List.forall_mem_singleton.mpr rfl⟩)
      (@IsExponent.some 'e' [] ['3'] (.inl rfl) (.inl rfl)
        ⟨List.cons_ne_nil _ _, List.forall_mem_singleton.mpr rfl⟩)))
  have rank : IsJson "[1,-2.5e3,true]".toList := by
    refine @IsJson.array ["1".toList, "-2.5e3".toList, "true".toList] (by decide) ?_
    simp only [List.forall_mem_cons, List.not_mem_nil, false_implies, implies_true, and_true]
    exact ⟨one, real, .true⟩
  have members : ∀ member ∈ [(Field.other, "\"rank\":[1,-2.5e3,true]".toList),
      (.id, "\"id\":\"\\u0061\\/b\"".toList), (.author, "\"author\":\"Lao\"".toList),
      (.text, "\"text\":\"!\"".toList)], WritesMember ⟨"a/b", "!", some "Lao"⟩ member.1 member.2 := by
    simp only [List.forall_mem_cons, List.not_mem_nil, false_implies, implies_true, and_true]
    refine ⟨?_, ?_, ?_, ?_⟩
    · exact .other (spellsLabel_self "rank" (by decide)) (by decide) rank
    · exact .id (spellsLabel_self "id" (by decide)) (.mk isBlanks_nil name isBlanks_nil)
    · exact .author (spellsLabel_self "author" (by decide)) (.some (spellsLabel_self "Lao" (by decide)))
    · exact .text (spellsLabel_self "text" (by decide)) (spellsLabel_self "!" (by decide))
  have once : ∀ field ≠ .other, [Field.other, .id, .author, .text].count field ≤ 1 := by
    intro field _
    cases field <;> decide
  exact @WritesQuote.mk _ [' '] [] _ (by decide) members once (by decide) (by decide) (by decide) isBlanks_nil

/-- One quote makes a store, and two quotes whose names differ in their escapes alone make none. -/
theorem ofFile_decides_ornate :
    (∃ store, ofFile (fileOf [smiling]) = .ok store ∧ Holds store [⟨"a/b", "😀", none⟩]) ∧
    ofFile (fileOf [smiling, ranked]) = .error ⟨.internal, "duplicate quote id a/b", .unknown⟩ := by
  obtain ⟨-, distinct, -⟩ := ofFile_decides (writesFile_fileOf (List.cons_ne_nil _ _)
    (.cons writesQuote_smiling .nil))
  obtain ⟨same, -, -⟩ := ofFile_decides (writesFile_fileOf (List.cons_ne_nil _ _)
    (.cons writesQuote_smiling (.cons writesQuote_ranked .nil)))
  exact ⟨distinct (by decide), same.trans rfl⟩

end Hashgate.Store
