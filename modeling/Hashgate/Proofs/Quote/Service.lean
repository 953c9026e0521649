import Mathlib.Data.List.Nodup
import Hashgate.Proofs.Quote.Store
import Hashgate.Quote.Service

/-! # What a quote service tells

A draw selects one of the names that the service has learnt, and what is told is what the source gives under
that name.  A store gives a quote under each of its names, because no two of its quotes share one.  So over a
store a draw selects a quote, and every quote is selected by one draw.

* `QuoteService.quote_of_drawn` — what a draw tells, whatever the source.
* `QuoteService.quote_eq` — what a draw tells of a store.
* `QuoteService.drawn`, `QuoteService.drawn_bijective` — the quote of a draw, and the draw of a quote.
* `QuoteService.draws_decide` — services over stores, and over any source.
-/

namespace Hashgate

/-! ## Any source -/

namespace QuoteService

variable {service : QuoteService} {source : QuoteSource} {draw : Nat} {id : String}

/-- What a service says about a name under which its source gives nothing. -/
def missing (id : String) : Failure := .notFound ("Quote " ++ id ++ " not found")

theorem ofSource_eq_error_iff {failure : Failure} :
    ofSource source = .error failure ↔ source.ids = .error failure := by
  unfold ofSource
  cases source.ids with
  | error =>
    constructor
    · rintro ⟨⟩
      rfl
    · rintro ⟨⟩
      rfl
  | ok ids => exact iff_of_false nofun nofun

theorem ofSource_eq_ok_iff :
    ofSource source = .ok service ↔ source.ids = .ok service.ids ∧ service.source = source := by
  unfold ofSource
  cases source.ids with
  | error => exact iff_of_false nofun (fun learnt => nomatch learnt.1)
  | ok ids =>
    constructor
    · rintro ⟨⟩
      exact ⟨rfl, rfl⟩
    · rintro ⟨⟨⟩, rfl⟩
      rfl

theorem quote_of_nil (isEmpty : service.ids = []) (draw : Nat) :
    service.quote draw = .error (.notFound "No quotes available") := by
  rw [quote, isEmpty]
  rfl

/-- A draw selects one of the names, unless there are none. -/
theorem exists_drawn (learnt : service.ids ≠ []) (draw : Nat) :
    ∃ id, service.ids[draw % service.ids.length]? = some id :=
  ⟨_, List.getElem?_eq_getElem (Nat.mod_lt _ (List.length_pos_iff.mpr learnt))⟩

/-- What a draw tells is what the source gives under the name that it selects. -/
theorem quote_of_drawn (drawn : service.ids[draw % service.ids.length]? = some id) :
    service.quote draw =
      match service.source.get? id with
      | .error failure => .error failure
      | .ok none => .error (missing id)
      | .ok (some q) => .ok q.render := by
  rw [quote, drawn]
  dsimp only
  rcases service.source.get? id with failure | _ | q
  · rfl
  · rfl
  · rfl

theorem quote_eq_ok_iff {text : String}
    (drawn : service.ids[draw % service.ids.length]? = some id) :
    service.quote draw = .ok text ↔ ∃ q, service.source.get? id = .ok (some q) ∧ q.render = text := by
  rw [quote_of_drawn drawn]
  rcases service.source.get? id with failure | _ | q <;> simp

theorem quote_eq_error_iff {failure : Failure}
    (drawn : service.ids[draw % service.ids.length]? = some id) :
    service.quote draw = .error failure ↔ service.source.get? id = .error failure ∨
      service.source.get? id = .ok none ∧ failure = missing id := by
  rw [quote_of_drawn drawn]
  rcases service.source.get? id with failure | _ | q <;> simp [eq_comm]

end QuoteService

/-! ## Stores -/

/-- A source that gives the quotes of a store, and their names in any order. -/
structure QuoteSource.Gives (source : QuoteSource) (store : Store) : Prop where
  ids : ∃ ids, source.ids = .ok ids ∧ ids.Perm store.ids
  get? : ∀ id, source.get? id = .ok (store.get? id)

theorem Store.source_gives (store : Store) : store.source.Gives store :=
  ⟨⟨store.ids, rfl, .refl _⟩, fun _ => rfl⟩

namespace QuoteService

variable {store : Store} {source : QuoteSource} {service : QuoteService}

/-- A service that has learnt the names of a store. -/
structure Serves (service : QuoteService) (store : Store) : Prop where
  ids : service.ids.Perm store.ids
  get? : ∀ id, service.source.get? id = .ok (store.get? id)

theorem serves_of_ofSource (gives : source.Gives store) (learnt : ofSource source = .ok service) :
    Serves service store := by
  obtain ⟨told, rfl⟩ := ofSource_eq_ok_iff.mp learnt
  obtain ⟨ids, tells, perm⟩ := gives.ids
  rw [told] at tells
  cases tells
  exact ⟨perm, gives.get?⟩

theorem Serves.ids_nodup (serves : Serves service store) : service.ids.Nodup :=
  serves.ids.nodup_iff.mpr store.ids_nodup

theorem Serves.length_eq (serves : Serves service store) : service.ids.length = store.size :=
  serves.ids.length_eq.trans (List.length_map _)

theorem Serves.isSome_get? (serves : Serves service store) {id : String} (learnt : id ∈ service.ids) :
    (store.get? id).isSome := by
  have known : id ∈ store.ids := serves.ids.mem_iff.mp learnt
  rw [Option.isSome_iff_ne_none]
  exact fun absent => Store.get?_eq_none_iff.mp absent known

/-- What a draw tells of a store. -/
theorem quote_eq (learnt : ofSource store.source = .ok service) (draw : Nat) :
    service.quote draw =
      match store.quotes[draw % store.size]? with
      | some q => .ok q.render
      | none => .error (.notFound "No quotes available") := by
  cases learnt
  have drawn : store.ids[draw % store.ids.length]? = store.quotes[draw % store.size]?.map (·.id) := by
    rw [Store.ids, List.length_map, List.getElem?_map, Store.size]
  unfold quote
  dsimp only
  rw [drawn]
  cases found : store.quotes[draw % store.size]? with
  | none => rfl
  | some q =>
    have there := Store.get?_eq_some_of_mem (List.mem_of_getElem? found)
    simp only [Option.map_some, Store.source, there]
    rfl

/-- The quote that an index selects. -/
def drawn (serves : Serves service store) (i : Fin service.ids.length) : {q // q ∈ store.quotes} :=
  have found := serves.isSome_get? (List.getElem_mem i.isLt)
  ⟨(store.get? service.ids[i]).get found,
    (Store.get?_eq_some_iff.mp (Option.some_get found).symm).1⟩

theorem get?_drawn (serves : Serves service store) (i : Fin service.ids.length) :
    store.get? service.ids[i] = some (drawn serves i).1 :=
  (Option.some_get _).symm

theorem id_drawn (serves : Serves service store) (i : Fin service.ids.length) :
    (drawn serves i).1.id = service.ids[i] :=
  (Store.get?_eq_some_iff.mp (get?_drawn serves i)).2

/-- Every quote of the store is selected by one index and no other. -/
theorem drawn_bijective (serves : Serves service store) : Function.Bijective (drawn serves) := by
  constructor
  · intro i j same
    have ids : service.ids[i] = service.ids[j] := by
      rw [← id_drawn serves i, ← id_drawn serves j, same]
    exact Fin.ext (serves.ids_nodup.getElem_inj_iff.mp ids)
  · rintro ⟨q, member⟩
    have learnt : q.id ∈ service.ids := serves.ids.mem_iff.mpr (List.mem_map_of_mem member)
    obtain ⟨i, small, there⟩ := List.getElem_of_mem learnt
    refine ⟨⟨i, small⟩, Subtype.ext (Option.some.inj ?_)⟩
    rw [← get?_drawn serves ⟨i, small⟩, ← Store.get?_eq_some_of_mem member, ← there]
    rfl

/-- What an index tells of a store. -/
theorem quote_eq_render (serves : Serves service store) (i : Fin service.ids.length) :
    service.quote i = .ok (drawn serves i).1.render := by
  have selected : service.ids[i % service.ids.length]? = some service.ids[i] := by
    rw [Nat.mod_eq_of_lt i.isLt]
    exact List.getElem?_eq_getElem i.isLt
  rw [quote_of_drawn selected, serves.get?, get?_drawn serves i]

/-- Draws that select the same name tell the same. -/
theorem quote_mod (service : QuoteService) (draw : Nat) :
    service.quote (draw % service.ids.length) = service.quote draw := by
  rw [quote, quote, Nat.mod_mod]

/-- What a draw tells of a store that has quotes. -/
theorem quote_eq_render_mod (serves : Serves service store) {i : Fin service.ids.length} {draw : Nat}
    (selects : draw % service.ids.length = i) : service.quote draw = .ok (drawn serves i).1.render := by
  rw [← quote_mod, selects, quote_eq_render]

/-- What can be said of the draws of a service over a store. -/
structure Draws (service : QuoteService) (store : Store) : Prop where
  length_eq : service.ids.length = store.size
  fails_iff : ∀ draw, (∃ failure, service.quote draw = .error failure) ↔ store.isEmpty = true
  failure_eq : ∀ draw failure, service.quote draw = .error failure →
    failure = .notFound "No quotes available"
  bijective : ∃ drawn : Fin service.ids.length → {q // q ∈ store.quotes}, Function.Bijective drawn ∧
    ∀ (i : Fin service.ids.length) draw, draw % service.ids.length = i →
      (drawn i).1.id = service.ids[i] ∧ service.quote draw = .ok (drawn i).1.render

theorem draws_of_serves (serves : Serves service store) : Draws service store := by
  have length : service.ids.length = store.quotes.length := serves.length_eq
  have empty_iff : store.isEmpty = true ↔ service.ids = [] := by
    rw [Store.isEmpty, List.isEmpty_iff_length_eq_zero, ← length, List.length_eq_zero_iff]
  have fails (draw : Nat) (failure : Failure) (failed : service.quote draw = .error failure) :
      service.ids = [] := by
    apply List.length_eq_zero_iff.mp
    apply Nat.eq_zero_of_not_pos
    intro positive
    have told := quote_eq_render_mod serves (i := ⟨draw % service.ids.length, Nat.mod_lt draw positive⟩) rfl
    rw [failed] at told
    cases told
  refine ⟨length, fun draw => ⟨?_, fun empty => ?_⟩, fun draw failure failed => ?_,
    drawn serves, drawn_bijective serves, fun i draw selects => ?_⟩
  · rintro ⟨failure, failed⟩
    exact empty_iff.mpr (fails draw failure failed)
  · exact ⟨_, quote_of_nil (empty_iff.mp empty) draw⟩
  · rw [quote_of_nil (fails draw failure failed)] at failed
    cases failed
    rfl
  · exact ⟨id_drawn serves i, quote_eq_render_mod serves selects⟩

/-! ## All services -/

/-- What is told of a name: the failure of the source, or that it has no such quote, or the quote. -/
structure Tells (source : QuoteSource) (id : String) (told : Except Failure String) : Prop where
  fails : ∀ failure, source.get? id = .error failure → told = .error failure
  lacks_iff : source.get? id = .ok none ↔
    told = .error (.notFound ("Quote " ++ id ++ " not found")) ∧ ∀ failure, source.get? id ≠ .error failure
  gives_iff : ∀ text, told = .ok text ↔ ∃ q, source.get? id = .ok (some q) ∧ q.render = text

/-- What is told of a name, letter by letter. -/
theorem Tells.eq_ok_iff {id : String} {told : Except Failure String} (tells : Tells source id told)
    (text : String) : told = .ok text ↔ ∃ q, source.get? id = .ok (some q) ∧
      ((q.author = none ∧ text = q.text) ∨
        ∃ author, q.author = some author ∧ text = q.text ++ " (" ++ author ++ ")") := by
  simp only [tells.gives_iff, Quote.render_eq_iff]

theorem tells_of_drawn {id : String} {draw : Nat}
    (drawn : service.ids[draw % service.ids.length]? = some id) :
    Tells service.source id (service.quote draw) := by
  refine ⟨fun failure failed => ?_, ⟨fun lacks => ⟨?_, fun failure failed => ?_⟩, ?_⟩,
    fun text => quote_eq_ok_iff drawn⟩
  · exact (quote_eq_error_iff drawn).mpr (.inl failed)
  · exact (quote_eq_error_iff drawn).mpr (.inr ⟨lacks, rfl⟩)
  · rw [lacks] at failed
    cases failed
  · rintro ⟨told, able⟩
    obtain failed | ⟨lacks, -⟩ := (quote_eq_error_iff drawn).mp told
    · exact absurd failed (able _)
    · exact lacks

/-- **Every draw tells a quote of the store, and every quote is told.**  A service over a store fails only if
the store is empty, and otherwise its indices and the quotes of the store are in bijection.  A service over
any source comes about exactly if the source lists its names.  Whatever the source says later, the draw
decides which name it is asked for, and what it says is what is told. -/
theorem draws_decide :
    (∀ (store : Store) source, source.Gives store →
      ∃ service, ofSource source = .ok service ∧ Draws service store) ∧
    (∀ source failure, ofSource source = .error failure ↔ source.ids = .error failure) ∧
    (∀ source service, ofSource source = .ok service ↔
      source.ids = .ok service.ids ∧ service.source = source) ∧
    ∀ (service : QuoteService) draw,
      (service.ids = [] → service.quote draw = .error (.notFound "No quotes available")) ∧
      (service.ids ≠ [] → ∃ id ∈ service.ids, service.ids[draw % service.ids.length]? = some id ∧
        Tells service.source id (service.quote draw)) := by
  refine ⟨fun store source gives => ?_, fun _ _ => ofSource_eq_error_iff, fun _ _ => ofSource_eq_ok_iff,
    fun service draw => ⟨fun isEmpty => quote_of_nil isEmpty draw, fun nonempty => ?_⟩⟩
  · obtain ⟨ids, tells, -⟩ := gives.ids
    have learnt : ofSource source = .ok ⟨source, ids⟩ := ofSource_eq_ok_iff.mpr ⟨tells, rfl⟩
    exact ⟨_, learnt, draws_of_serves (serves_of_ofSource gives learnt)⟩
  · obtain ⟨id, drawn⟩ := exists_drawn nonempty draw
    exact ⟨id, List.mem_of_getElem? drawn, drawn, tells_of_drawn drawn⟩

/-- A source that lists a name twice, and has nothing under it. -/
def ghosts : QuoteSource := ⟨.ok ["ghost", "ghost"], fun _ => .ok none⟩

/-- A store of two quotes has a draw for each, and ghosts are looked for in vain. -/
theorem draws_decide_ghosts :
    (∃ store service, Store.ofQuotes (Store.named ["b", "a"]) = .ok store ∧
      ofSource store.source = .ok service ∧ Draws service store ∧ store.isEmpty = false) ∧
    ofSource ghosts = .ok ⟨ghosts, ["ghost", "ghost"]⟩ ∧
    quote ⟨ghosts, ["ghost", "ghost"]⟩ 3 = .error (.notFound ("Quote " ++ "ghost" ++ " not found")) := by
  obtain ⟨stores, -, comesAbout, tells⟩ := draws_decide
  constructor
  · have distinct : ((Store.named ["b", "a"]).map (·.id)).Nodup := by decide
    obtain ⟨store, filled⟩ := Store.exists_ofQuotes_eq_ok distinct
    obtain ⟨service, learnt, draws⟩ := stores store store.source store.source_gives
    have isEmpty : (Store.ofQuotes (Store.named ["b", "a"])).map (·.isEmpty) = .ok false := rfl
    rw [filled] at isEmpty
    exact ⟨store, service, filled, learnt, draws, Except.ok.inj isEmpty⟩
  · refine ⟨(comesAbout ghosts _).mpr ⟨rfl, rfl⟩, ?_⟩
    obtain ⟨id, member, -, told⟩ := (tells ⟨ghosts, ["ghost", "ghost"]⟩ 3).2 (by decide)
    obtain rfl : id = "ghost" := by simpa using member
    exact (told.lacks_iff.mp rfl).1

end QuoteService

end Hashgate
