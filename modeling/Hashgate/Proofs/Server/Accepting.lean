import Hashgate.Proofs.Server.Sessions
import Hashgate.Proofs.Server.Steps

/-! # How a server accepts its clients

The clients of a server know nothing of the attempts that the server makes, and when it ends is all that
they notice of them.  There is an accept loop that yields just the clients who are told that they are
connected: it is making an attempt as long as the server goes on, and it has stopped when the server has
ended.  By the clock it starts a program when a client connects, and hears the signal when the server does.
So the programs that it starts play the sessions that the clients know, and what is known of accept loops
is known of servers.

* `Follows` — an accept loop at the side of a server.
* `Accompanies` — what it does by the clock from one state of the server to another.
* `Follows.admits`, `Follows.run` — what it does while clients do something.
* `Hosts`, `exists_acceptLoop` — a server, its accept loop and its programs, from the start.
* `length_connected_le` — who gets in after the signal.
-/

namespace Hashgate.Server

open AcceptLoop (Runs)

variable {handler : Handler} {s t : Server} {loop : AcceptLoop} {client : String} {op : Op} {ops : List Op}

/-! ## What clients know -/

/-- The client who is told that it is connected. -/
def Op.connected? (op : Op) (answer : Answer) : Option String :=
  if answer = .connected then op.client? else none

/-- All clients who are told so, in their order. -/
def connected (handler : Handler) (s : Server) (ops : List Op) : List String :=
  (ops.zip (s.run handler ops)).filterMap fun entry => entry.1.connected? entry.2

theorem connected_cons (handler : Handler) (s : Server) (op : Op) (ops : List Op) :
    connected handler s (op :: ops) = (op.connected? (s.step handler op).1).toList ++
      connected handler (s.step handler op).2 ops := by
  simp only [connected, run, List.zip_cons_cons, List.filterMap_cons]
  cases op.connected? (s.step handler op).1 <;> rfl

/-- Time may have gone on. -/
structure Later (s t : Server) : Prop where
  stop_eq : t.stop = s.stop
  ending_eq : t.ending = s.ending
  past : s.now ≤ t.now

theorem Later.refl (s : Server) : Later s s := ⟨rfl, rfl, Nat.le_refl _⟩

theorem Touches.later (touches : Touches handler s client t) : Later s t := by
  refine ⟨?_, ?_, touches.now_le⟩
  · cases touches <;> rfl
  · cases touches <;> rfl

theorem hasEnded_iff : s.hasEnded = true ↔ ∃ moment, s.ending = some moment ∧ moment ≤ s.now := by
  simp [hasEnded, Option.any_eq_true]

theorem Later.hasEnded (later : Later s t) (ended : s.hasEnded = true) : t.hasEnded = true := by
  obtain ⟨moment, settled, past⟩ := hasEnded_iff.mp ended
  exact hasEnded_iff.mpr ⟨moment, later.ending_eq.trans settled, Nat.le_trans past later.past⟩

theorem withLink_ne_connected {f : Link → Answer × Server} (talks : ∀ link, (f link).1 ≠ .connected) :
    (s.withLink client f).1 ≠ .connected := by
  unfold withLink
  cases s.link? client with
  | none => nofun
  | some link => exact talks link

/-- Nobody is told so who has not asked. -/
theorem step_ne_connected (talks : ∀ client, op ≠ .connect client) :
    (s.step handler op).1 ≠ .connected := by
  cases op with
  | connect client => exact absurd rfl (talks client)
  | send | finish => exact withLink_ne_connected fun link => by simp
  | close | idle | shutdown => simp [step]
  | receive | receiveAll =>
    refine withLink_ne_connected fun link => ?_
    dsimp only
    split <;> simp [deliver]
  | rebind =>
    simp only [step]
    split <;> simp
  | join =>
    simp only [step, await]
    split
    · simp
    · split <;> simp

theorem later_await (s : Server) : Later s s.await.2 := by
  unfold await
  split
  · exact .refl s
  · split
    · exact ⟨rfl, rfl, Nat.le_refl _⟩
    · exact ⟨rfl, rfl, Nat.le_max_left ..⟩

theorem later_step (talks : ∀ client, op ≠ .connect client) (stays : op ≠ .shutdown) :
    Later s (s.step handler op).2 := by
  cases owner : op.client? with
  | some client => exact (touches_talk owner (talks client)).later
  | none =>
    cases op with
    | idle => exact ⟨rfl, rfl, Nat.le_add_right ..⟩
    | rebind => exact .refl s
    | join => exact later_await s
    | shutdown => exact absurd rfl stays
    | _ => cases owner

/-! ## Since when a client is connected -/

def since? (s : Server) (client : String) : Option Nat := (s.link? client).map (·.since)

/-- Whoever is connected has been so before, and since the same moment. -/
def Keeps (s t : Server) : Prop :=
  ∀ client since, t.since? client = some since → s.since? client = some since

theorem keeps_of_links (same : t.links = s.links) : Keeps s t := by
  intro client since connected
  rwa [since?, link?, same] at connected

theorem keeps_setLink {link new : Link} (found : s.link? client = some link) (same : new.since = link.since) :
    Keeps s (s.setLink client new) := by
  intro other since connected
  by_cases own : other = client
  · subst own
    rw [since?, link?_setLink] at connected
    rw [since?, found, ← connected, Option.map_some, Option.map_some, same]
  · rwa [since?, link?_setLink_of_ne s own] at connected

theorem keeps_dropLink (s : Server) (client : String) : Keeps s (s.dropLink client) := by
  intro other since connected
  by_cases own : other = client
  · subst own
    rw [since?, link?_dropLink] at connected
    cases connected
  · rwa [since?, link?_dropLink_of_ne s own] at connected

theorem keeps_withLink {f : Link → Answer × Server}
    (keeps : ∀ link, s.link? client = some link → Keeps s (f link).2) :
    Keeps s (s.withLink client f).2 := by
  unfold withLink
  cases found : s.link? client with
  | none => exact keeps_of_links rfl
  | some link => exact keeps link found

/-- Nobody is newly connected who has not asked. -/
theorem keeps_step (talks : ∀ client, op ≠ .connect client) : Keeps s (s.step handler op).2 := by
  cases op with
  | connect client => exact absurd rfl (talks client)
  | send | finish => exact keeps_withLink fun link found => keeps_setLink found rfl
  | close client => exact keeps_dropLink s client
  | receive | receiveAll =>
    refine keeps_withLink fun link found => ?_
    dsimp only
    split
    · exact keeps_of_links rfl
    · exact keeps_setLink found rfl
  | idle | rebind => exact keeps_of_links rfl
  | shutdown =>
    refine keeps_of_links ?_
    simp only [step, signal]
    split <;> rfl
  | join =>
    refine keeps_of_links ?_
    simp only [step, await]
    split
    · rfl
    · split <;> rfl

/-! ## What is admitted -/

/-- The server with a client that it has just let in.  If it has been told to stop, this was its last
attempt. -/
def letIn (s : Server) (client : String) : Server :=
  { s.setLink client ⟨[], s.now, 0⟩ with ending := s.ending.map fun _ => s.now }

/-- A step lets a client in, or gives the signal, or is nothing to the one who accepts. -/
inductive Admits (s : Server) : Option String → Server → Prop
  | lets (client : String) : s.hasEnded = false → Admits s (some client) (s.letIn client)
  | signals : s.stop = none → Admits s none s.signal
  | nothing {t : Server} : Later s t → Keeps s t → Admits s none t

theorem admits_step (handler : Handler) (s : Server) (op : Op) :
    Admits s (op.connected? (s.step handler op).1) (s.step handler op).2 := by
  by_cases connects : ∃ client, op = .connect client
  · obtain ⟨client, rfl⟩ := connects
    simp only [step, accept]
    split
    · exact .nothing (.refl s) (keeps_of_links rfl)
    · split
      · exact .nothing (.refl s) (keeps_of_links rfl)
      · next going => exact .lets client (Bool.eq_false_iff.mpr going)
  · have talks : ∀ client, op ≠ .connect client := not_exists.mp connects
    rw [Op.connected?, if_neg (step_ne_connected talks)]
    by_cases stops : op = .shutdown
    · subst stops
      cases told : s.stop with
      | none => exact .signals told
      | some =>
        have same : s.signal = s := by rw [signal, told]
        rw [step, same]
        exact .nothing (.refl s) (keeps_of_links rfl)
    · exact .nothing (later_step talks stops) (keeps_step talks)

/-! ## The accept loop -/

/-- An accept loop has heard what the server has heard. -/
structure Hears (loop : AcceptLoop) (s : Server) : Prop where
  controlled : loop.latch.isControlled = true
  signalled_iff : loop.latch.isSignalled = true ↔ s.stop.isSome = true
  ending_iff : s.ending.isSome = true ↔ s.stop.isSome = true

/-- An accept loop that is making an attempt as long as a server goes on. -/
structure Follows (loop : AcceptLoop) (s : Server) : Prop extends Hears loop s where
  stage_eq : loop.stage = if s.hasEnded = true then .stopped else .attempting

theorem Hears.isSignalled (hears : Hears loop s) (ended : s.hasEnded = true) :
    loop.latch.isSignalled = true := by
  obtain ⟨moment, settled, -⟩ := hasEnded_iff.mp ended
  refine hears.signalled_iff.mpr (hears.ending_iff.mp ?_)
  rw [settled]
  rfl

theorem Hears.later (hears : Hears loop s) (later : Later s t) : Hears loop t where
  controlled := hears.controlled
  signalled_iff := by rw [later.stop_eq]; exact hears.signalled_iff
  ending_iff := by rw [later.stop_eq, later.ending_eq]; exact hears.ending_iff

theorem Hears.of_channel (hears : Hears loop s) {other : AcceptLoop}
    (same : other.latch.channel = loop.latch.channel) : Hears other s where
  controlled := (congrArg Watch.isOpen same).trans hears.controlled
  signalled_iff := by
    rw [Latch.isSignalled, same]
    exact hears.signalled_iff
  ending_iff := hears.ending_iff

theorem Follows.attempting (follows : Follows loop s) (going : s.hasEnded = false) :
    loop.stage = .attempting := by
  rw [follows.stage_eq, going]
  rfl

/-! ## By the clock -/

/-- Events in the order of their moments, between two moments. -/
structure Within (start stop : Nat) (timetable : List (Nat × AcceptLoop.Event String)) : Prop where
  ordered : (timetable.map Prod.fst).Pairwise (· ≤ ·)
  between : ∀ entry ∈ timetable, start ≤ entry.1 ∧ entry.1 ≤ stop

theorem within_at {start moment stop : Nat} (least : start ≤ moment) (most : moment ≤ stop)
    (events : List (AcceptLoop.Event String)) : Within start stop (events.map (moment, ·)) := by
  refine ⟨?_, fun entry member => ?_⟩
  · rw [List.map_map, List.pairwise_map]
    exact List.pairwise_of_forall fun _ _ => Nat.le_refl moment
  · obtain ⟨_, -, rfl⟩ := List.mem_map.mp member
    exact ⟨least, most⟩

theorem Within.append {start middle stop : Nat} {earlier later : List (Nat × AcceptLoop.Event String)}
    (first : Within start middle earlier) (second : Within middle stop later) (begins : start ≤ middle)
    (ends : middle ≤ stop) : Within start stop (earlier ++ later) := by
  refine ⟨?_, fun entry member => ?_⟩
  · rw [List.map_append, List.pairwise_append]
    refine ⟨first.ordered, second.ordered, fun moment before other after => ?_⟩
    obtain ⟨entry, early, rfl⟩ := List.mem_map.mp before
    obtain ⟨next, late, rfl⟩ := List.mem_map.mp after
    exact Nat.le_trans (first.between entry early).2 (second.between next late).1
  · cases List.mem_append.mp member with
    | inl early =>
      obtain ⟨least, most⟩ := first.between entry early
      exact ⟨least, Nat.le_trans most ends⟩
    | inr late =>
      obtain ⟨least, most⟩ := second.between entry late
      exact ⟨Nat.le_trans begins least, most⟩

/-- What an accept loop does while a server goes from one state to another. -/
structure Accompanies (s t : Server) (loop next : AcceptLoop) (history : History String) : Prop where
  recorded : ∃ timetable, loop.record? timetable = some (history, next) ∧ Within s.now t.now timetable
  past : s.now ≤ t.now
  stop_eq : t.stop = s.stop.or history.stop
  since_eq : ∀ client since, t.since? client = some since →
    ((history.launch? client).map (·.since)).or (s.since? client) = some since

variable {middle next : AcceptLoop} {history others : History String}

theorem Accompanies.trans {u : Server} (first : Accompanies s t loop middle history)
    (second : Accompanies t u middle next others) :
    Accompanies s u loop next (history.followedBy others) where
  recorded := by
    obtain ⟨earlier, begins, within⟩ := first.recorded
    obtain ⟨later, ends, withinLater⟩ := second.recorded
    exact ⟨earlier ++ later, AcceptLoop.record?_append begins ends,
      within.append withinLater first.past second.past⟩
  past := Nat.le_trans first.past second.past
  stop_eq := by
    rw [second.stop_eq, first.stop_eq, Option.or_assoc]
    rfl
  since_eq := by
    intro client since connected
    have served := second.since_eq client since connected
    rw [History.launch?_followedBy]
    cases found : others.launch? client with
    | some launch => simpa [found] using served
    | none =>
      rw [found] at served
      exact first.since_eq client since served

/-- Some events that all fall on one moment, and none of which is the signal. -/
theorem accompanies_at {events : List (AcceptLoop.Event String)} {started : List (Started String)}
    (runs : Runs loop events started next) (silent : AcceptLoop.heard events = []) {moment : Nat}
    (least : s.now ≤ moment) (most : moment ≤ t.now) (stop : t.stop = s.stop)
    (since : ∀ client since, t.since? client = some since →
      (((⟨started.map (⟨·, moment⟩), none⟩ : History String).launch? client).map (·.since)).or
        (s.since? client) = some since) :
    Accompanies s t loop next ⟨started.map (⟨·, moment⟩), none⟩ where
  recorded := ⟨_, AcceptLoop.record?_at runs silent moment, within_at least most events⟩
  past := Nat.le_trans least most
  stop_eq := by rw [stop, Option.or_none]
  since_eq := since

/-- Nobody is let in. -/
theorem Later.accompanies (later : Later s t) (keeps : Keeps s t)
    {events : List (AcceptLoop.Event String)} (runs : Runs loop events [] next)
    (silent : AcceptLoop.heard events = []) {moment : Nat} (least : s.now ≤ moment)
    (most : moment ≤ t.now) : Accompanies s t loop next .empty :=
  accompanies_at runs silent least most later.stop_eq keeps

/-- An accept loop can go on until it follows a server, and lets some clients in meanwhile. -/
def CatchesUp (loop : AcceptLoop) (s : Server) (clients : List String) (t : Server) : Prop :=
  ∃ history next, Accompanies s t loop next history ∧
    history.launches.map (·.program.connection) = clients ∧ Follows next t

theorem Accompanies.catchesUp {u : Server} {clients : List String}
    (first : Accompanies s t loop middle history) (goesOn : CatchesUp middle t clients u) :
    CatchesUp loop s (history.launches.map (·.program.connection) ++ clients) u := by
  obtain ⟨others, next, second, lets, follows⟩ := goesOn
  have all : (history.followedBy others).launches.map (·.program.connection) =
      history.launches.map (·.program.connection) ++ clients := by
    rw [History.followedBy, List.map_append, lets]
  exact ⟨history.followedBy others, next, first.trans second, all, follows⟩

/-- If the server has ended, an attempt that is being made runs out of time. -/
theorem Hears.catchesUp (hears : Hears loop t) (attempting : loop.stage = .attempting) (later : Later s t)
    (keeps : Keeps s t) : CatchesUp loop s [] t := by
  cases ended : t.hasEnded with
  | false =>
    have follows : Follows loop t := ⟨hears, by simp [attempting, ended]⟩
    exact ⟨.empty, loop, later.accompanies keeps (.done loop) rfl later.past (Nat.le_refl _), rfl, follows⟩
  | true =>
    obtain ⟨moment, -, past⟩ := hasEnded_iff.mp ended
    have follows : Follows { loop with stage := .stopped } t := ⟨hears.of_channel rfl, by simp [ended]⟩
    have looks : AcceptLoop.Does (κ := String) { loop with stage := .looking } .look []
        { loop with stage := .stopped } := .stops rfl (hears.isSignalled ended)
    have runs : Runs loop [.settle .timeout, .look] ([] : List (Started String))
        { loop with stage := .stopped } := .step (.waits attempting) (.step looks (.done _))
    exact ⟨.empty, _, later.accompanies keeps runs rfl (Nat.le_max_left s.now moment)
      (Nat.max_le.mpr ⟨later.past, past⟩), rfl, follows⟩

/-- Whoever is connected now is served by the program that was just started, or has been connected before. -/
theorem since_of_launch (s : Server) (client : String) (observer : Nat) (other : String) (since : Nat)
    (connected : (s.letIn client).since? other = some since) :
    (((⟨[⟨⟨client, observer⟩, s.now⟩], none⟩ : History String).launch? other).map (·.since)).or
      (s.since? other) = some since := by
  have renewed : (s.setLink client ⟨[], s.now, 0⟩).since? other = some since := connected
  by_cases own : other = client
  · subst own
    rw [since?, link?_setLink] at renewed
    simpa [History.launch?] using renewed
  · rw [since?, link?_setLink_of_ne s own, ← since?] at renewed
    simpa [History.launch?, Ne.symm own] using renewed

/-- The accept loop lets a client in, and looks whether it is to go on. -/
theorem Follows.lets (follows : Follows loop s) (client : String) (going : s.hasEnded = false) :
    CatchesUp loop s [client] (s.letIn client) := by
  let looking : AcceptLoop := { loop.hear (.clone loop.observer) with stage := .looking }
  let program : Started String := ⟨client, loop.latch.observers⟩
  have starts : AcceptLoop.Does loop (.settle (.connection client)) [program] looking :=
    .starts client (follows.attempting going)
  have before : Hears looking s := follows.of_channel (Latch.channel_next loop.latch _)
  have hears : Hears looking (s.letIn client) := by
    refine ⟨before.controlled, before.signalled_iff, ?_⟩
    rw [letIn, Option.isSome_map]
    exact before.ending_iff
  have ended_iff : (s.letIn client).hasEnded = true ↔ looking.latch.isSignalled = true := by
    rw [before.signalled_iff, ← before.ending_iff, hasEnded]
    cases ending : s.ending <;> simp [letIn, ending, setLink]
  have accompanies {stage : AcceptLoop.Stage}
      (looks : AcceptLoop.Does (κ := String) looking .look [] { looking with stage := stage }) :
      Accompanies s (s.letIn client) loop { looking with stage := stage } ⟨[⟨program, s.now⟩], none⟩ :=
    accompanies_at (.step starts (.step looks (.done _))) rfl (Nat.le_refl _) (Nat.le_refl _) rfl
      (since_of_launch s client _)
  cases told : looking.latch.isSignalled with
  | true =>
    have stopped : Follows { looking with stage := .stopped } (s.letIn client) :=
      ⟨hears.of_channel rfl, by simp [ended_iff.mpr told]⟩
    exact ⟨_, _, accompanies (.stops rfl told), rfl, stopped⟩
  | false =>
    have goesOn : Follows { looking with stage := .attempting } (s.letIn client) :=
      ⟨hears.of_channel rfl, by simp [ended_iff, told]⟩
    exact ⟨_, _, accompanies (.attempts rfl told), rfl, goesOn⟩

theorem Follows.signals (follows : Follows loop s) (silent : s.stop = none) :
    CatchesUp loop s [] s.signal := by
  have quiet : loop.latch.isSignalled = false := by
    rw [Bool.eq_false_iff]
    intro told
    rw [follows.signalled_iff, silent] at told
    cases told
  have going : s.hasEnded = false := by
    rw [Bool.eq_false_iff]
    intro ended
    rw [follows.isSignalled ended] at quiet
    cases quiet
  -- The server has been told, and time has not gone on yet.
  let told : Server := { s with stop := some s.now, ending := some (s.now + s.poll) }
  have later : Later told s.signal := by
    rw [signal, silent]
    exact ⟨rfl, rfl, Nat.le_succ _⟩
  have keeps : Keeps told s.signal := by
    rw [signal, silent]
    exact keeps_of_links rfl
  have hears : Hears (loop.hear .signal) told := by
    refine ⟨Latch.isControlled_next.mpr ⟨follows.controlled, nofun⟩, iff_of_true ?_ rfl, Iff.rfl⟩
    exact Latch.isSignalled_next.mpr (.inr ⟨follows.controlled, rfl⟩)
  have first : Accompanies s told loop (loop.hear .signal) ⟨[], some s.now⟩ := {
    recorded := ⟨_, AcceptLoop.record?_signal follows.controlled quiet s.now,
      within_at (Nat.le_refl _) (Nat.le_refl _) [.heard .signal]⟩
    past := Nat.le_refl _
    stop_eq := by rw [silent]; rfl
    since_eq := fun _ _ connected => connected }
  exact first.catchesUp ((hears.later later).catchesUp (follows.attempting going) later keeps)

theorem Follows.later (follows : Follows loop s) (later : Later s t) (keeps : Keeps s t) :
    CatchesUp loop s [] t := by
  have hears := follows.toHears.later later
  cases ended : s.hasEnded with
  | false => exact hears.catchesUp (follows.attempting ended) later keeps
  | true =>
    have stays : Follows loop t :=
      ⟨hears, by rw [follows.stage_eq, if_pos ended, if_pos (later.hasEnded ended)]⟩
    exact ⟨.empty, loop, later.accompanies keeps (.done loop) rfl later.past (Nat.le_refl _), rfl, stays⟩

theorem Follows.admits (follows : Follows loop s) {admitted : Option String}
    (admits : Admits s admitted t) : CatchesUp loop s admitted.toList t := by
  cases admits with
  | lets client going => exact follows.lets client going
  | signals silent => exact follows.signals silent
  | nothing later keeps => exact follows.later later keeps

/-- Whatever clients do, the accept loop goes along with the server. -/
theorem Follows.run (follows : Follows loop s) (handler : Handler) (ops : List Op) :
    CatchesUp loop s (connected handler s ops) (after handler s ops) := by
  induction ops generalizing s loop with
  | nil => exact follows.later (.refl s) (keeps_of_links rfl)
  | cons op rest ih =>
    obtain ⟨history, middle, first, lets, goesOn⟩ := follows.admits (admits_step handler s op)
    rw [connected_cons, ← lets, after_cons]
    exact first.catchesUp (ih goesOn)

/-! ## From the start -/

theorem follows_fresh (reachable : Bool) (poll : Nat) :
    Follows AcceptLoop.fresh.look (fresh reachable poll) :=
  ⟨⟨rfl, Iff.rfl, Iff.rfl⟩, rfl⟩

theorem stop_step (handler : Handler) (s : Server) (op : Op) :
    (s.step handler op).2.stop.isSome = true ↔ s.stop.isSome = true ∨ op = .shutdown := by
  by_cases stops : op = .shutdown
  · subst stops
    refine iff_of_true ?_ (.inr rfl)
    rw [step, signal]
    split
    · next told => simp [told]
    · rfl
  · have same : (s.step handler op).2.stop = s.stop := by
      cases op with
      | connect client =>
        simp only [step, accept]
        split
        · rfl
        · split <;> rfl
      | _ => exact (later_step (fun _ connects => by cases connects) stops).stop_eq
    simp [same, stops]

theorem stop_after (handler : Handler) (s : Server) (ops : List Op) :
    (after handler s ops).stop.isSome = true ↔ s.stop.isSome = true ∨ .shutdown ∈ ops := by
  induction ops generalizing s with
  | nil => simp
  | cons op rest ih =>
    rw [after_cons, ih, stop_step, List.mem_cons, or_assoc, eq_comm (a := op)]

/-- The programs of an accept loop play the sessions that the clients of a server know. -/
structure Hosts (handler : Handler) (s : Server) (history : History String) (next : AcceptLoop) : Prop where
  stop_eq : history.stop = s.stop
  /-- Every program sees the signal if it has been given. -/
  sees : ∀ launch ∈ history.launches,
    next.latch.answer (.isSignalled launch.program.observer) = .seen s.stop.isSome
  stopped_iff : next.stage = .stopped ↔ s.hasEnded = true
  plays : ∀ client link, s.link? client = some link →
    history.trace? handler client link.steps = some (link.trace handler (.ofMoment s.stop))

theorem Accompanies.hosts {reachable : Bool} {poll : Nat}
    (accompanies : Accompanies (fresh reachable poll) s AcceptLoop.fresh next history)
    (follows : Follows next s) (handler : Handler) : Hosts handler s history next where
  stop_eq := accompanies.stop_eq.symm
  sees := by
    intro launch member
    obtain ⟨timetable, recorded, -⟩ := accompanies.recorded
    rw [AcceptLoop.answer_of_record? recorded member, accompanies.stop_eq]
    rfl
  stopped_iff := by
    rw [follows.stage_eq]
    split <;> simp [*]
  plays := by
    intro client link found
    have connected : s.since? client = some link.since := by rw [since?, found, Option.map_some]
    have served := accompanies.since_eq client link.since connected
    -- Nobody was connected at the start, so it is a program of this run.
    have alone : (fresh reachable poll).since? client = none := rfl
    rw [alone, Option.or_none] at served
    obtain ⟨launch, serves, since⟩ := Option.map_eq_some_iff.mp served
    have told : history.stop = s.stop := accompanies.stop_eq.symm
    rw [History.trace?, serves, Option.map_some, Launch.trace, since, told]
    rfl

/-- **A server is an accept loop with its programs.**  Whatever its clients do, there is a run by the clock in
which just those are let in who are told that they are connected.  The run has stopped if the server has
ended, and the session of every client is the one that its program plays from the moment at which it was
started, with the signal at the moment at which all programs come to see it. -/
theorem exists_acceptLoop (handler : Handler) (reachable : Bool) (poll : Nat) (ops : List Op) :
    ∃ (timetable : List (Nat × AcceptLoop.Event String)) (history : History String) (next : AcceptLoop),
      AcceptLoop.fresh.record? timetable = some (history, next) ∧
      (timetable.map Prod.fst).Pairwise (· ≤ ·) ∧
      history.launches.map (·.program.connection) = connected handler (fresh reachable poll) ops ∧
      (history.stop.isSome = true ↔ .shutdown ∈ ops) ∧
      Hosts handler (after handler (fresh reachable poll) ops) history next := by
  -- The accept loop makes its first attempt before anybody does anything.
  have looks : Accompanies (fresh reachable poll) (fresh reachable poll) AcceptLoop.fresh
      AcceptLoop.fresh.look .empty :=
    (Later.refl _).accompanies (keeps_of_links rfl) (.step (.attempts rfl rfl) (.done _)) rfl
      (Nat.le_refl _) (Nat.le_refl _)
  obtain ⟨history, next, accompanies, lets, follows⟩ :=
    looks.catchesUp ((follows_fresh reachable poll).run handler ops)
  obtain ⟨timetable, recorded, within⟩ := accompanies.recorded
  have hosts := accompanies.hosts follows handler
  refine ⟨timetable, history, next, recorded, within.ordered, lets, ?_, hosts⟩
  rw [hosts.stop_eq, stop_after]
  simp [fresh]

/-- Of all who connect after the signal at most one gets in. -/
theorem length_connected_le (handler : Handler) (reachable : Bool) (poll : Nat) {ops : List Op}
    (stops : .shutdown ∈ ops) (later : List Op) :
    (connected handler (after handler (fresh reachable poll) ops) later).length ≤ 1 := by
  obtain ⟨_, loop, -, -, follows⟩ := (follows_fresh reachable poll).run handler ops
  obtain ⟨history, next, accompanies, lets, -⟩ := follows.run handler later
  obtain ⟨timetable, recorded, -⟩ := accompanies.recorded
  have runs := AcceptLoop.runs_of_record? recorded
  have told : loop.latch.isSignalled = true :=
    follows.signalled_iff.mpr ((stop_after ..).mpr (.inr stops))
  have few := runs.length_attempts_le told
  have most := List.length_filterMap_le Attempt.connection? (AcceptLoop.attempts (timetable.map Prod.snd))
  have same := congrArg List.length runs.connections_eq
  rw [List.map_map, AcceptLoop.accepted] at same
  have count : (history.launches.map (·.program.connection)).length ≤
      (AcceptLoop.attempts (timetable.map Prod.snd)).length := same ▸ most
  rw [lets] at count
  split at few <;> omega

end Hashgate.Server
