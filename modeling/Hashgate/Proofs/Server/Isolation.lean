import Hashgate.Proofs.Gate.Promptness
import Hashgate.Proofs.Server.Steps

/-! # Clients keep out of each other's way

Every client of a server has a program of its own, so all that the steps of one client have in common
with those of another is the clock.  A step makes the clock go on only if its client waits for something
that the server does of its own accord.  As long as nobody does, a client is told what it would be told
if it were alone with the server: whether others stall, leave early or are turned away is nothing to it.

* `Server.alone` — the server as a client has it that is alone with it.
* `step_alone`, `alone_step_of_not_concerns` — a step of that client is its step there, and a step of
  anybody else is nothing there.
* `run_alone` — a whole run.
* `still_of_undisturbed` — nobody waits before a prompt program, as long as no deadline has fired.
* `clients_isolated` — a client among others, and alone.
-/

namespace Hashgate.Server

open Session

variable {handler : Handler} {s : Server} {client other : String} {link : Link} {op : Op}
  {ops : List Op}

/-! ## Runs -/

/-- The steps that are left when a client is alone: its own, and those in which nothing is done. -/
def Op.concerns (client : String) (op : Op) : Bool := op.client? = some client || op = .idle

/-- What a client is answered, among all that is answered. -/
def answersTo (handler : Handler) (s : Server) (client : String) (ops : List Op) : List Answer :=
  ((ops.zip (s.run handler ops)).filter fun entry => entry.1.concerns client).map Prod.snd

/-- All that the server has told a client by now, and whether it has closed the connection. -/
def told (handler : Handler) (s : Server) (client : String) : Option (List UInt8 × Bool) :=
  (s.link? client).map fun link =>
    let trace := link.trace handler (.ofMoment s.stop)
    (((Link.output trace).filter (·.1 ≤ s.now)).map Prod.snd,
      (Link.closing? trace).any (· ≤ s.now))

@[simp] theorem answersTo_nil (handler : Handler) (s : Server) (client : String) :
    answersTo handler s client [] = [] := rfl

theorem answersTo_cons (handler : Handler) (s : Server) (client : String) (op : Op) (ops : List Op) :
    answersTo handler s client (op :: ops) =
      if op.concerns client then
        (s.step handler op).1 :: answersTo handler (s.step handler op).2 client ops
      else answersTo handler (s.step handler op).2 client ops := by
  simp only [answersTo, run, List.zip_cons_cons, List.filter_cons]
  split <;> rfl

/-! ## One client -/

/-- The server as a client has it that is alone with it. -/
def alone (s : Server) (client : String) : Server :=
  { s with joined := false, links := (s.link? client).toList.map (client, ·) }

@[simp] theorem stop_alone (s : Server) (client : String) : (s.alone client).stop = s.stop := rfl

@[simp] theorem link?_alone (s : Server) (client : String) :
    (s.alone client).link? client = s.link? client := by
  simp only [alone, link?]
  cases s.links.lookup client <;> simp

theorem alone_setLink (s : Server) (client : String) (link : Link) :
    (s.setLink client link).alone client = (s.alone client).setLink client link := by
  rw [alone, link?_setLink]
  simp [setLink, alone]

theorem alone_setLink_of_ne (s : Server) (apart : client ≠ other) (link : Link) :
    (s.setLink other link).alone client = s.alone client := by
  rw [alone, link?_setLink_of_ne s apart]
  rfl

theorem alone_dropLink (s : Server) (client : String) :
    (s.dropLink client).alone client = (s.alone client).dropLink client := by
  rw [alone, link?_dropLink]
  simp [dropLink, alone]

theorem alone_dropLink_of_ne (s : Server) (apart : client ≠ other) :
    (s.dropLink other).alone client = s.alone client := by
  rw [alone, link?_dropLink_of_ne s apart]
  rfl

@[simp] theorem alone_fresh (reachable : Bool) (poll : Nat) (client : String) :
    (fresh reachable poll).alone client = fresh reachable poll := rfl

/-! ## One step -/

theorem withLink_alone {f g : Link → Answer × Server}
    (same : ∀ link, g link = ((f link).1, (f link).2.alone client)) :
    (s.alone client).withLink client g =
      ((s.withLink client f).1, (s.withLink client f).2.alone client) := by
  unfold withLink
  rw [link?_alone]
  cases found : s.link? client with
  | none => rfl
  | some link => exact same link

theorem deliver_alone (s : Server) (client : String) (link : Link) (octets : List (Nat × UInt8)) :
    (s.alone client).deliver client link octets =
      ((s.deliver client link octets).1, (s.deliver client link octets).2.alone client) := by
  simp only [deliver, ← alone_setLink]
  rfl

theorem accept_alone (s : Server) (client : String) :
    (s.alone client).accept client = ((s.accept client).1, (s.accept client).2.alone client) := by
  have reachable : (s.alone client).reachable = s.reachable := rfl
  have ended : (s.alone client).hasEnded = s.hasEnded := rfl
  simp only [accept, reachable, ended, ← alone_setLink]
  split
  · rfl
  · split
    · rfl
    · rfl

/-- A step of a client that is alone with the server is its step among the others. -/
theorem step_alone (own : op.concerns client = true) :
    (s.alone client).step handler op =
      ((s.step handler op).1, (s.step handler op).2.alone client) := by
  have takes : op.client? = some client ∨ op = .idle := by simpa [Op.concerns] using own
  obtain takes | rfl := takes
  · cases op with
    | connect =>
      cases takes
      exact accept_alone s client
    | send _ octets =>
      cases takes
      exact withLink_alone fun link => by rw [alone_setLink]; rfl
    | finish =>
      cases takes
      exact withLink_alone fun link => by rw [alone_setLink]; rfl
    | close =>
      cases takes
      simp only [step, alone_dropLink]
    | receive _ count =>
      cases takes
      refine withLink_alone fun link => ?_
      by_cases few : ((Link.output (link.trace handler (.ofMoment s.stop))).drop link.received).length <
          count
      · rw [if_pos few]
        exact if_pos few
      · rw [if_neg few]
        exact (if_neg few).trans (deliver_alone s client link _)
    | receiveAll =>
      cases takes
      refine withLink_alone fun link => ?_
      simp only [stop_alone, deliver_alone]
      split
      · rfl
      · rfl
    | _ => cases takes
  · rfl

theorem Touches.alone_eq {t : Server} (touches : Touches handler s other t) (apart : client ≠ other)
    (instant : t.now = s.now) : t.alone client = s.alone client := by
  cases touches with
  | none => rfl
  | connects => exact alone_setLink_of_ne s apart _
  | pushes => exact alone_setLink_of_ne s apart _
  | drops => exact alone_dropLink_of_ne s apart
  | @takes link received moment =>
    obtain rfl : moment = s.now := instant
    exact alone_setLink_of_ne s apart _

/-- Nobody else's step is anything to a client, if it takes no time. -/
theorem alone_step_of_not_concerns (foreign : op.concerns client = false) (going : s.ending = none)
    (stays : op ≠ .shutdown) (instant : (s.step handler op).2.now = s.now) :
    (s.step handler op).2.alone client = s.alone client := by
  have notIts : op.client? ≠ some client ∧ op ≠ .idle := by simpa [Op.concerns] using foreign
  obtain ⟨other, owner, -, touches⟩ | ⟨idle, -⟩ | ⟨-, -, joined, same⟩ :=
    step_cases handler going stays
  · refine touches.alone_eq ?_ instant
    rintro rfl
    exact notIts.1 owner
  · exact absurd idle notIts.2
  · rw [same]
    rfl

/-! ## A whole run -/

/-- Time passes in a run only while nothing is done. -/
def Still (handler : Handler) (s : Server) (ops : List Op) : Prop :=
  (after handler s ops).now = s.now + idleTime * ops.count .idle

/-- In such a run no step takes time but those in which nothing is done. -/
theorem still_cons (going : Going s) (stays : ∀ other ∈ op :: ops, other ≠ .shutdown) :
    Still handler s (op :: ops) ↔
      (op ≠ .idle → (s.step handler op).2.now = s.now) ∧ Still handler (s.step handler op).2 ops := by
  obtain ⟨first, others⟩ := List.forall_mem_cons.mp stays
  have begins := now_le_step handler going.ending_eq first
  have continues := now_le_after handler (going_step handler going first) others
  rw [Still, Still, after_cons, ← List.singleton_append, List.count_append, Nat.mul_add]
  by_cases idle : op = .idle
  · subst idle
    have passes : (s.step handler .idle).2.now = s.now + idleTime * [Op.idle].count .idle := by
      simp [step]
    simp only [ne_eq, not_true_eq_false, false_implies, true_and]
    omega
  · have busy : [op].count .idle = 0 := by simp [idle]
    simp only [ne_eq, idle, not_false_eq_true, forall_const]
    rw [busy] at begins ⊢
    omega

/-- A client among others is answered as if it were alone, and is alone with the same server in the end. -/
theorem run_alone (going : Going s) (stays : ∀ op ∈ ops, op ≠ .shutdown) (still : Still handler s ops)
    (client : String) :
    answersTo handler s client ops = (s.alone client).run handler (ops.filter (·.concerns client)) ∧
      (after handler s ops).alone client =
        after handler (s.alone client) (ops.filter (·.concerns client)) := by
  induction ops generalizing s with
  | nil => exact ⟨rfl, rfl⟩
  | cons op rest ih =>
    obtain ⟨first, others⟩ := List.forall_mem_cons.mp stays
    obtain ⟨instant, restStill⟩ := (still_cons going stays).mp still
    obtain ⟨answers, ends⟩ := ih (going_step handler going first) others restStill
    rw [answersTo_cons, after_cons]
    cases own : op.concerns client with
    | true =>
      rw [List.filter_cons_of_pos own, run, after_cons, step_alone own, ends, answers]
      exact ⟨rfl, rfl⟩
    | false =>
      have busy : op ≠ .idle := by
        rintro rfl
        simp [Op.concerns] at own
      rw [List.filter_cons_of_neg (by simp [own]), ends, answers,
        alone_step_of_not_concerns own going.ending_eq first (instant busy)]
      exact ⟨rfl, rfl⟩

/-! ## Deadlines -/

/-- No deadline has fired on any connection. -/
def Unexpired (handler : Handler) (s : Server) : Prop :=
  ∀ entry ∈ s.links, ¬ Expired (entry.2.trace handler (.ofMoment s.stop)) s.now

instance (handler : Handler) (s : Server) : Decidable (Unexpired handler s) :=
  inferInstanceAs (Decidable (∀ entry ∈ s.links, ¬ Expired _ _))

/-- At no point of a run has a deadline fired. -/
def Undisturbed (handler : Handler) (s : Server) (ops : List Op) : Prop :=
  ∀ earlier, earlier <+: ops → Unexpired handler (after handler s earlier)

theorem undisturbed_iff : Undisturbed handler s ops ↔
    ∀ count < ops.length + 1, Unexpired handler (after handler s (ops.take count)) := by
  constructor
  · exact fun undisturbed count _ => undisturbed _ (List.take_prefix count ops)
  · intro unexpired earlier begins
    rw [List.prefix_iff_eq_take.mp begins]
    exact unexpired earlier.length (Nat.lt_succ_of_le begins.length_le)

instance (handler : Handler) (s : Server) (ops : List Op) : Decidable (Undisturbed handler s ops) :=
  decidable_of_iff _ undisturbed_iff.symm

/-- A prompt program does nothing later than now, unless a deadline fires. -/
theorem le_now_or_expired (prompt : Prompt (handler .never)) (going : Going s)
    (found : s.link? client = some link) {mark : Nat × Act}
    (member : mark ∈ link.trace handler (.ofMoment s.stop)) :
    mark.1 ≤ s.now ∨ Expired (link.trace handler (.ofMoment s.stop)) mark.1 := by
  rw [going.stop_eq] at member ⊢
  obtain ⟨since, steps⟩ := going.arrived client link found
  exact ((prompt s.now _).acts mark member).2 ⟨since, steps⟩

theorem Touches.now_eq {t : Server} (touches : Touches handler s client t)
    (prompt : Prompt (handler .never)) (going : Going s) (unexpired : Unexpired handler t) :
    t.now = s.now := by
  cases touches with
  | @takes link received moment found waits =>
    obtain late | same := Nat.lt_or_eq_of_le waits.1
    · obtain ⟨mark, member, rfl⟩ := waits.2 late
      cases le_now_or_expired prompt going found member with
      | inl early => exact absurd late (Nat.not_lt.mpr early)
      | inr expired => exact absurd expired (unexpired _ (.head _))
    · exact same.symm
  | _ => rfl

/-- With a prompt program no step takes time, unless a deadline fires. -/
theorem still_of_undisturbed (prompt : Prompt (handler .never)) (going : Going s)
    (stays : ∀ op ∈ ops, op ≠ .shutdown) (undisturbed : Undisturbed handler s ops) :
    Still handler s ops := by
  induction ops generalizing s with
  | nil => rfl
  | cons op rest ih =>
    obtain ⟨first, others⟩ := List.forall_mem_cons.mp stays
    have later : Undisturbed handler (s.step handler op).2 rest := fun earlier begins =>
      undisturbed (op :: earlier) ((List.prefix_cons_inj op).mpr begins)
    refine (still_cons going stays).mpr
      ⟨fun busy => ?_, ih (going_step handler going first) others later⟩
    obtain ⟨client, -, -, touches⟩ | ⟨idle, -⟩ | ⟨-, -, joined, same⟩ :=
      step_cases handler going.ending_eq first
    · exact touches.now_eq prompt going (undisturbed [op] ((List.prefix_cons_inj op).mpr List.nil_prefix))
    · exact absurd idle busy
    · rw [same]

/-! ## Isolation -/

/-- A client is answered in a run as it is if all others are left out, and in the end it has been told the
same and finds the connection as open. -/
def Isolated (handler : Handler) (s : Server) (client : String) (ops : List Op) : Prop :=
  answersTo handler s client ops = s.run handler (ops.filter (·.concerns client)) ∧
    told handler (after handler s ops) client =
      told handler (after handler s (ops.filter (·.concerns client))) client

theorem isolated_of_still {reachable : Bool} {poll : Nat} (stays : ∀ op ∈ ops, op ≠ .shutdown)
    (still : Still handler (fresh reachable poll) ops) (client : String) :
    Isolated handler (fresh reachable poll) client ops := by
  obtain ⟨answers, ends⟩ := run_alone (going_fresh reachable poll) stays still client
  rw [alone_fresh] at answers ends
  refine ⟨answers, ?_⟩
  rw [← ends]
  simp only [told, link?_alone]
  rfl

theorem isolated_of_undisturbed {reachable : Bool} {poll : Nat} (prompt : Prompt (handler .never))
    (stays : ∀ op ∈ ops, op ≠ .shutdown)
    (undisturbed : Undisturbed handler (fresh reachable poll) ops) (client : String) :
    Isolated handler (fresh reachable poll) client ops :=
  isolated_of_still stays (still_of_undisturbed prompt (going_fresh reachable poll) stays undisturbed)
    client

/-- **Clients keep out of each other's way.**  Some clients take steps in any order, before the server is
told to stop.  Whatever the program is that the server hands its connections to, if no step makes the clock
go on, each client is answered and told as if it were alone with the server.  If that program is prompt, no
step does so as long as no deadline has fired, and a gate before a prompt program is prompt. -/
theorem clients_isolated (reachable : Bool) (poll : Nat) (client : String) (ops : List Op)
    (stays : ∀ op ∈ ops, op ≠ .shutdown) :
    (∀ handler, Still handler (fresh reachable poll) ops →
      Isolated handler (fresh reachable poll) client ops) ∧
    (∀ handler : Handler, Prompt (handler .never) → Undisturbed handler (fresh reachable poll) ops →
      Isolated handler (fresh reachable poll) client ops) ∧
    ∀ (gate : Gate) (next : Handler), Prompt (next .never) →
      Undisturbed (gate.serve next) (fresh reachable poll) ops →
      Isolated (gate.serve next) (fresh reachable poll) client ops := by
  refine ⟨fun handler still => isolated_of_still stays still client, ?_, ?_⟩
  · intro handler prompt undisturbed
    exact isolated_of_undisturbed prompt stays undisturbed client
  · intro gate next prompt undisturbed
    exact isolated_of_undisturbed (Gate.prompt_serve prompt gate) stays undisturbed client

/-- A gate that lets in whoever has the word. -/
def wordGate : Gate where
  config := .standard
  generate := fun _ _ => .ok "?"
  verify := fun result _ => .judged (if result = "!" then .valid else .short none)
  draw := ⟨0, Vector.replicate 16 0⟩

/-- One client stalls, one leaves early, one has not got the word, and one has. -/
def crowd : List Op :=
  [.connect "stalls", .send "stalls" [0], .connect "leaves", .connect "knows", .send "knows" [0],
    .connect "guesses", .idle, .send "guesses" [0], .close "leaves", .receive "knows" 1,
    .receive "guesses" 1, .send "guesses" (Utf8.ofString "."), .send "knows" (Utf8.ofString "!"),
    .receiveAll "guesses", .receiveAll "knows"]

/-- Whoever has the word gets in, whatever the others do. -/
theorem clients_isolated_crowd :
    Isolated (wordGate.serve (tell [66])) (fresh true 20) "knows" crowd ∧
    (fresh true 20).run (wordGate.serve (tell [66])) (crowd.filter (·.concerns "knows")) =
      [.connected, .done, .done, .octets [63], .done, .octets [66]] ∧
    Isolated (tell [66]) (fresh true 20) "stalls" crowd ∧
    Isolated (echo "10.0.0.1") (fresh true 20) "leaves" (crowd.take 9) := by
  obtain ⟨-, -, gates⟩ := clients_isolated true 20 "knows" crowd (by decide)
  obtain ⟨-, programs, -⟩ := clients_isolated true 20 "stalls" crowd (by decide)
  obtain ⟨anyHandler, -⟩ := clients_isolated true 20 "leaves" (crowd.take 9) (by decide)
  have undisturbed : Undisturbed (wordGate.serve (tell [66])) (fresh true 20) crowd := by
    decide +kernel
  have untroubled : Undisturbed (tell [66]) (fresh true 20) crowd := by
    decide +kernel
  have still : Still (echo "10.0.0.1") (fresh true 20) (crowd.take 9) := by
    unfold Still
    decide +kernel
  exact ⟨gates _ _ (prompt_tell _ _) undisturbed, by decide +kernel,
    programs _ (prompt_tell _ _) untroubled, anyHandler _ still⟩

end Hashgate.Server
