import Hashgate.Proofs.Session.Basic
import Hashgate.Server.Clients

/-! # What clients do to a server

Whatever a client does, it touches nothing but its own link and the clock, and the clock stops at moments
at which the program of that client does something.  So all that the steps of clients can do to a server
is said once, by a relation.

* `link?_setLink`, `link?_dropLink` — the links of a server, by the names of their clients.
* `Waits` — how a client makes the clock go on.
* `Touches`, `step_cases` — what a step does.
* `Going` — a server that has not been told to stop, before and after a step.
* `now_le_after` — the least time that a run takes.
-/

namespace Hashgate.Server

open Session

variable {handler : Handler} {s : Server} {client other : String} {link : Link} {op : Op}
  {ops : List Op}

/-- The client whose step it is. -/
def Op.client? : Op → Option String
  | .connect client => some client
  | .send client _ => some client
  | .finish client => some client
  | .close client => some client
  | .receive client _ => some client
  | .receiveAll client => some client
  | _ => none

/-- The server after some steps. -/
def after (handler : Handler) (s : Server) (ops : List Op) : Server :=
  ops.foldl (fun s op => (s.step handler op).2) s

@[simp] theorem after_nil (handler : Handler) (s : Server) : after handler s [] = s := rfl

@[simp] theorem after_cons (handler : Handler) (s : Server) (op : Op) (ops : List Op) :
    after handler s (op :: ops) = after handler (s.step handler op).2 ops := rfl

/-! ## Links -/

theorem lookup_filter {α : Type} (links : List (String × α)) (keep : String → Bool)
    (client : String) :
    (links.filter fun entry => keep entry.1).lookup client =
      if keep client then links.lookup client else none := by
  induction links with
  | nil => simp
  | cons entry rest ih =>
    obtain ⟨name, a⟩ := entry
    by_cases same : client = name
    · subst same
      cases kept : keep client <;> simp [kept, ih]
    · have unlike : (client == name) = false := beq_eq_false_iff_ne.mpr same
      cases kept : keep name <;> simp [kept, List.lookup_cons, unlike, ih]

@[simp] theorem link?_setLink (s : Server) (client : String) (link : Link) :
    (s.setLink client link).link? client = some link := by
  simp [setLink, link?]

theorem link?_setLink_of_ne (s : Server) (apart : client ≠ other) (link : Link) :
    (s.setLink other link).link? client = s.link? client := by
  have unlike : (client == other) = false := beq_eq_false_iff_ne.mpr apart
  simp [setLink, link?, List.lookup_cons, unlike, lookup_filter _ (· != other), apart]

@[simp] theorem link?_dropLink (s : Server) (client : String) :
    (s.dropLink client).link? client = none := by
  simp [dropLink, link?, lookup_filter _ (· != client)]

theorem link?_of_setLink {name : String} {found : Link}
    (has : (s.setLink client link).link? name = some found) :
    s.link? name = some found ∨ found = link := by
  by_cases same : name = client
  · subst same
    rw [link?_setLink] at has
    exact .inr (Option.some.inj has).symm
  · rw [link?_setLink_of_ne s same] at has
    exact .inl has

theorem link?_dropLink_of_ne (s : Server) (apart : client ≠ other) :
    (s.dropLink other).link? client = s.link? client := by
  simp [dropLink, link?, lookup_filter _ (· != other), apart]

theorem link?_of_dropLink {name : String} (has : (s.dropLink client).link? name = some link) :
    s.link? name = some link := by
  by_cases same : name = client
  · subst same
    rw [link?_dropLink] at has
    cases has
  · rwa [link?_dropLink_of_ne s same] at has

/-! ## The clock -/

theorem foldl_max_mem (moments : List Nat) (start : Nat) :
    moments.foldl max start = start ∨ moments.foldl max start ∈ moments := by
  induction moments generalizing start with
  | nil => exact .inl rfl
  | cons moment rest ih =>
    rw [List.foldl_cons]
    cases ih (max start moment) with
    | inr among => exact .inr (.tail _ among)
    | inl same =>
      rw [same]
      cases Nat.le_total start moment with
      | inl later =>
        rw [Nat.max_eq_right later]
        exact .inr (.head _)
      | inr sooner => exact .inl (Nat.max_eq_left sooner)

theorem exists_mark_of_output {trace : Trace} {octet : Nat × UInt8}
    (member : octet ∈ Link.output trace) : ∃ mark ∈ trace, mark.1 = octet.1 := by
  obtain ⟨⟨moment, act⟩, among, within⟩ := List.mem_flatMap.mp member
  refine ⟨(moment, act), among, ?_⟩
  dsimp only at within
  split at within
  · obtain ⟨_, -, rfl⟩ := List.mem_map.mp within
    rfl
  · cases within

theorem exists_mark_of_closing? {trace : Trace} {moment : Nat}
    (closing : Link.closing? trace = some moment) : ∃ mark ∈ trace, mark.1 = moment := by
  obtain ⟨mark, found, same⟩ := Option.map_eq_some_iff.mp closing
  exact ⟨mark, List.mem_of_find?_eq_some found, same⟩

/-- A wait from one moment to another, at which something is done unless no time passes. -/
def Waits (trace : Trace) (start moment : Nat) : Prop :=
  start ≤ moment ∧ (start < moment → ∃ mark ∈ trace, mark.1 = moment)

theorem waits_refl (trace : Trace) (start : Nat) : Waits trace start start :=
  ⟨Nat.le_refl start, fun late => absurd late (Nat.lt_irrefl start)⟩

theorem Waits.max {trace : Trace} {start moment other : Nat} (waits : Waits trace start moment)
    (marked : ∃ mark ∈ trace, mark.1 = other) : Waits trace start (max moment other) := by
  cases Nat.le_total moment other with
  | inl later =>
    rw [Nat.max_eq_right later]
    exact ⟨Nat.le_trans waits.1 later, fun _ => marked⟩
  | inr sooner =>
    rw [Nat.max_eq_left sooner]
    exact waits

/-- A client that takes octets waits for the last of them. -/
theorem waits_lastMoment {trace : Trace} {octets : List (Nat × UInt8)}
    (told : ∀ octet ∈ octets, octet ∈ Link.output trace) (start : Nat) :
    Waits trace start (max start (Link.lastMoment octets)) := by
  cases foldl_max_mem (octets.map Prod.fst) 0 with
  | inl start_eq =>
    rw [Link.lastMoment, start_eq, Nat.max_zero]
    exact waits_refl trace start
  | inr among =>
    obtain ⟨octet, member, same⟩ := List.mem_map.mp among
    obtain ⟨mark, made, when⟩ := exists_mark_of_output (told octet member)
    exact (waits_refl trace start).max ⟨mark, made, when.trans same⟩

/-! ## What a step does -/

/-- What a step of a client can make of the server. -/
inductive Touches (handler : Handler) (s : Server) (client : String) : Server → Prop
  | none : Touches handler s client s
  | connects : Touches handler s client (s.setLink client ⟨[], s.now, 0⟩)
  | pushes {link : Link} {arrival : Arrival} : s.link? client = some link →
      Touches handler s client
        (s.setLink client { link with steps := link.steps ++ [⟨arrival, s.now, 0⟩] })
  | drops : Touches handler s client (s.dropLink client)
  | takes {link : Link} {received moment : Nat} : s.link? client = some link →
      Waits (link.trace handler (.ofMoment s.stop)) s.now moment →
      Touches handler s client
        { s.setLink client { link with received := received } with now := moment }

theorem touches_push (s : Server) (client : String) (arrival : Arrival) :
    Touches handler s client (s.push client arrival).2 := by
  unfold push withLink
  cases found : s.link? client with
  | none => exact .none
  | some link => exact .pushes found

theorem touches_talk (takes : op.client? = some client) (talks : op ≠ .connect client) :
    Touches handler s client (s.step handler op).2 := by
  cases op with
  | connect =>
    cases takes
    exact absurd rfl talks
  | send => cases takes; exact touches_push _ _ _
  | finish => cases takes; exact touches_push _ _ _
  | close => cases takes; exact .drops
  | receive _ count =>
    cases takes
    simp only [step, withLink]
    cases found : s.link? client with
    | none => exact .none
    | some link =>
      dsimp only
      split
      · exact .none
      · exact .takes found (waits_lastMoment
          (fun octet member => List.mem_of_mem_drop (List.mem_of_mem_take member)) s.now)
  | receiveAll =>
    cases takes
    simp only [step, withLink]
    cases found : s.link? client with
    | none => exact .none
    | some link =>
      dsimp only
      split
      · exact .none
      · next moment closing =>
        exact .takes found ((waits_lastMoment (fun octet => List.mem_of_mem_drop) s.now).max
          (exists_mark_of_closing? closing))
  | _ => cases takes

theorem touches_step (going : s.ending = none) (takes : op.client? = some client) :
    Touches handler s client (s.step handler op).2 := by
  by_cases connects : op = .connect client
  · subst connects
    simp only [step, accept, going]
    split
    · exact .none
    · split
      · exact .none
      · rw [Option.map_none, ← going]
        exact .connects
  · exact touches_talk takes connects

/-- What a step of anybody can make of a server that has not been told to stop. -/
theorem step_cases (handler : Handler) (going : s.ending = none) (stays : op ≠ .shutdown) :
    (∃ client, op.client? = some client ∧ op ≠ .idle ∧ Touches handler s client (s.step handler op).2) ∨
    op = .idle ∧ (s.step handler op).2 = { s with now := s.now + idleTime } ∨
    op.client? = none ∧ op ≠ .idle ∧ ∃ joined, (s.step handler op).2 = { s with joined := joined } := by
  cases owner : op.client? with
  | some client =>
    refine .inl ⟨client, rfl, ?_, touches_step going owner⟩
    rintro rfl
    cases owner
  | none =>
    cases op with
    | idle => exact .inr (.inl ⟨rfl, rfl⟩)
    | rebind => exact .inr (.inr ⟨rfl, nofun, s.joined, rfl⟩)
    | join =>
      refine .inr (.inr ⟨rfl, nofun, s.await.2.joined, ?_⟩)
      simp only [step, await]
      split
      · rfl
      · split
        · rfl
        · next ending =>
          rw [going] at ending
          cases ending
    | shutdown => exact absurd rfl stays
    | _ => cases owner

theorem Touches.now_le {t : Server} (touches : Touches handler s client t) : s.now ≤ t.now := by
  cases touches with
  | takes _ waits => exact waits.1
  | _ => exact Nat.le_refl s.now

/-! ## Servers that have not been told to stop -/

/-- A server that nobody has told to stop, and that has not heard anything from the future. -/
structure Going (s : Server) : Prop where
  stop_eq : s.stop = none
  ending_eq : s.ending = none
  arrived : ∀ client link, s.link? client = some link →
    link.since ≤ s.now ∧ ∀ step ∈ link.steps, step.notBefore ≤ s.now

theorem going_fresh (reachable : Bool) (poll : Nat) : Going (fresh reachable poll) :=
  ⟨rfl, rfl, nofun⟩

/-- The links of one client may change, if time does not run backwards. -/
theorem Going.of_link? {t : Server} (going : Going s) (stop : t.stop = s.stop)
    (ending : t.ending = s.ending) (past : s.now ≤ t.now)
    (links : ∀ client link, t.link? client = some link → s.link? client = some link ∨
      link.since ≤ t.now ∧ ∀ step ∈ link.steps, step.notBefore ≤ t.now) : Going t where
  stop_eq := stop.trans going.stop_eq
  ending_eq := ending.trans going.ending_eq
  arrived := by
    intro client link found
    cases links client link found with
    | inr arrived => exact arrived
    | inl old =>
      obtain ⟨since, steps⟩ := going.arrived client link old
      exact ⟨Nat.le_trans since past, fun step member => Nat.le_trans (steps step member) past⟩

/-- Of all the links only one is new, and there is nothing in it that is later than the clock. -/
theorem Going.setLink (going : Going s) {moment : Nat} (past : s.now ≤ moment)
    (since : link.since ≤ moment) (steps : ∀ step ∈ link.steps, step.notBefore ≤ moment) :
    Going { s.setLink client link with now := moment } := by
  refine going.of_link? rfl rfl past fun name found has => ?_
  have renewed : (s.setLink client link).link? name = some found := has
  cases link?_of_setLink renewed with
  | inl old => exact .inl old
  | inr same =>
    subst same
    exact .inr ⟨since, steps⟩

theorem Touches.going {t : Server} (touches : Touches handler s client t) (going : Going s) :
    Going t := by
  cases touches with
  | none => exact going
  | connects => exact going.setLink (Nat.le_refl _) (Nat.le_refl _) nofun
  | @pushes link arrival found =>
    obtain ⟨since, steps⟩ := going.arrived client link found
    refine going.setLink (Nat.le_refl _) since fun step member => ?_
    cases List.mem_append.mp member with
    | inl old => exact steps step old
    | inr new =>
      cases List.mem_singleton.mp new
      exact Nat.le_refl s.now
  | drops =>
    exact going.of_link? rfl rfl (Nat.le_refl _) fun name link found => .inl (link?_of_dropLink found)
  | @takes link received moment found waits =>
    obtain ⟨since, steps⟩ := going.arrived client link found
    exact going.setLink waits.1 (Nat.le_trans since waits.1) fun step member =>
      Nat.le_trans (steps step member) waits.1

theorem going_step (handler : Handler) (going : Going s) (stays : op ≠ .shutdown) :
    Going (s.step handler op).2 := by
  obtain ⟨client, -, -, touches⟩ | ⟨-, same⟩ | ⟨-, -, joined, same⟩ :=
    step_cases handler going.ending_eq stays
  · exact touches.going going
  · rw [same]
    exact going.of_link? rfl rfl (Nat.le_add_right _ _) fun client link found => .inl found
  · rw [same]
    exact going.of_link? rfl rfl (Nat.le_refl _) fun client link found => .inl found

/-- Time goes on while nothing is done, and does not go back while something is. -/
theorem now_le_step (handler : Handler) (going : s.ending = none) (stays : op ≠ .shutdown) :
    s.now + idleTime * [op].count .idle ≤ (s.step handler op).2.now := by
  obtain ⟨client, -, busy, touches⟩ | ⟨rfl, same⟩ | ⟨-, busy, joined, same⟩ :=
    step_cases handler going stays
  · simpa [busy] using touches.now_le
  · simp [same]
  · simp [same, busy]

theorem now_le_after (handler : Handler) (going : Going s) (stays : ∀ op ∈ ops, op ≠ .shutdown) :
    s.now + idleTime * ops.count .idle ≤ (after handler s ops).now := by
  induction ops generalizing s with
  | nil => exact Nat.le_refl _
  | cons op rest ih =>
    obtain ⟨first, others⟩ := List.forall_mem_cons.mp stays
    have begins := now_le_step handler going.ending_eq first
    have continues := ih (going_step handler going first) others
    rw [after_cons, ← List.singleton_append, List.count_append, Nat.mul_add]
    omega

end Hashgate.Server
