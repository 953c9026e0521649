import Hashgate.Text.Fields

/-! # Splitting undoes joining

A text has one field more than it has separators, no field holds a separator, and joining the fields
gives the text back.  So a list of separator-free fields is exactly what its own text splits into.

* `split_join` — splitting a joined text.
* `join_split` — joining a split text.
* `split_eq_iff` — the fields of a text, said without `split`.
-/

namespace Hashgate.Fields

variable {separator : Char}

/-! ## Joining -/

theorem join_cons {field : List Char} {others : List (List Char)} (more : others ≠ []) :
    join separator (field :: others) = field ++ separator :: join separator others := by
  cases others with
  | nil => exact absurd rfl more
  | cons next rest => rfl

/-- Every field but the first stands behind a separator. -/
theorem join_cons_eq_append_flatMap (separator : Char) (field : List Char) (others : List (List Char)) :
    join separator (field :: others) = field ++ others.flatMap (separator :: ·) := by
  induction others generalizing field with
  | nil => simp [join]
  | cons next rest ih => rw [join_cons (List.cons_ne_nil next rest), ih, List.flatMap_cons, List.cons_append]

/-- There is a separator to each of those fields. -/
theorem length_le_length_flatMap (separator : Char) (fields : List (List Char)) :
    fields.length ≤ (fields.flatMap (separator :: ·)).length := by
  induction fields with
  | nil => exact Nat.le_refl 0
  | cons field rest ih =>
    simp only [List.flatMap_cons, List.length_append, List.length_cons]
    omega

/-! ## Splitting -/

theorem split_ne_nil (separator : Char) (text : List Char) : split separator text ≠ [] := by
  cases text with
  | nil => simp [split]
  | cons c rest =>
    cases shape : split separator rest with
    | nil => simp [split, shape]
    | cons field others => by_cases equal : c = separator <;> simp [split, shape, equal]

theorem exists_split_eq_cons (separator : Char) (text : List Char) :
    ∃ field others, split separator text = field :: others :=
  List.exists_cons_of_ne_nil (split_ne_nil separator text)

/-- A separator ends an empty field. -/
theorem split_cons_self (text : List Char) :
    split separator (separator :: text) = [] :: split separator text := by
  obtain ⟨field, others, equal⟩ := exists_split_eq_cons separator text
  simp [split, equal]

/-- Any other character belongs to the first field. -/
theorem split_cons_of_ne {c : Char} (other : c ≠ separator) {text field : List Char}
    {others : List (List Char)} (equal : split separator text = field :: others) :
    split separator (c :: text) = (c :: field) :: others := by
  simp [split, equal, other]

theorem split_of_not_mem {field : List Char} (absent : separator ∉ field) :
    split separator field = [field] := by
  induction field with
  | nil => rfl
  | cons c rest ih =>
    rw [List.mem_cons, not_or] at absent
    exact split_cons_of_ne (Ne.symm absent.1) (ih absent.2)

/-- A field ends at the first separator. -/
theorem split_append {field : List Char} (absent : separator ∉ field) (text : List Char) :
    split separator (field ++ separator :: text) = field :: split separator text := by
  induction field with
  | nil => exact split_cons_self text
  | cons c rest ih =>
    rw [List.mem_cons, not_or] at absent
    exact split_cons_of_ne (Ne.symm absent.1) (ih absent.2)

/-- There is one field more than there are separators. -/
theorem length_split (separator : Char) (text : List Char) :
    (split separator text).length = text.count separator + 1 := by
  induction text with
  | nil => rfl
  | cons c rest ih =>
    by_cases equal : c = separator
    · subst equal
      rw [split_cons_self, List.length_cons, ih, List.count_cons_self]
    · obtain ⟨field, others, shape⟩ := exists_split_eq_cons separator rest
      rw [split_cons_of_ne equal shape, List.length_cons, ← List.length_cons, ← shape, ih,
        List.count_cons_of_ne equal]

theorem not_mem_of_mem_split {text field : List Char} (member : field ∈ split separator text) :
    separator ∉ field := by
  induction text generalizing field with
  | nil => simp [split] at member; simp [member]
  | cons c rest ih =>
    obtain ⟨first, others, shape⟩ := exists_split_eq_cons separator rest
    by_cases equal : c = separator
    · subst equal
      rw [split_cons_self, List.mem_cons] at member
      rcases member with rfl | member
      · simp
      · exact ih member
    · rw [split_cons_of_ne equal shape, List.mem_cons] at member
      rcases member with rfl | member
      · have absent : separator ∉ first := ih (by simp [shape])
        simp [absent, Ne.symm equal]
      · exact ih (by simp [shape, member])

/-! ## The two together -/

theorem split_join {fields : List (List Char)} (nonempty : fields ≠ [])
    (absent : ∀ field ∈ fields, separator ∉ field) :
    split separator (join separator fields) = fields := by
  induction fields with
  | nil => exact absurd rfl nonempty
  | cons field others ih =>
    cases others with
    | nil => exact split_of_not_mem (absent field List.mem_cons_self)
    | cons next rest =>
      rw [join_cons (List.cons_ne_nil next rest), split_append (absent field List.mem_cons_self),
        ih (List.cons_ne_nil next rest) fun f member => absent f (List.mem_cons_of_mem field member)]

theorem join_split (text : List Char) : join separator (split separator text) = text := by
  -- A character goes either before the first field or, if it separates, in front of all of them.
  induction text with
  | nil => rfl
  | cons c rest ih =>
    by_cases equal : c = separator
    · subst equal
      rw [split_cons_self, join_cons (split_ne_nil _ rest), ih]
      rfl
    · obtain ⟨field, others, shape⟩ := exists_split_eq_cons separator rest
      rw [split_cons_of_ne equal shape]
      rw [shape] at ih
      cases others with
      | nil => exact congrArg (c :: ·) ih
      | cons next more => exact congrArg (c :: ·) ih

/-- The fields of a text are the separator-free texts that join up to it. -/
theorem split_eq_iff {text : List Char} {fields : List (List Char)} (nonempty : fields ≠ []) :
    split separator text = fields ↔
      text = join separator fields ∧ ∀ field ∈ fields, separator ∉ field := by
  constructor
  · rintro rfl
    exact ⟨(join_split text).symm, fun field member => not_mem_of_mem_split member⟩
  · rintro ⟨rfl, absent⟩
    exact split_join nonempty absent

end Hashgate.Fields
