import Hashgate.Proofs.Session.Observation
import Hashgate.Proofs.Session.Waiting

/-! # Sessions keep account of their streams

What a session has done to its stream can be told from its trace.  The octets that are still to be read
are those of before less as many from the front as the reads of the trace took, the count of writes has
gone up by the writes of the trace, and the clock has gone from the start of the trace to its end.  So a
program that is handed a stream gets all that the programs before it have not read, and gets it once.

* `Stream.unread` — all that is still to be read.
* `Accounted` — a trace that tells what has become of a stream.
* `Accounts` — a session whose traces do, which is kept when sessions are put in a row.
-/

namespace Hashgate

/-! ## Octets to be read -/

def Arrival.octets : Arrival → List UInt8
  | .data octets => octets
  | _ => []

/-- All that is still to be read. -/
def Stream.unread (s : Stream) : List UInt8 := s.steps.flatMap fun step => step.arrival.octets

/-- The octets that a read has found. -/
def octetsOf : Except IoError.Kind (List UInt8) → List UInt8
  | .ok octets => octets
  | .error _ => []

/-- A read changes nothing but the steps, and what it finds comes before all that it leaves. -/
theorem Stream.exists_take_eq (s : Stream) (capacity : Nat) :
    ∃ found steps, s.take capacity = (found, { s with steps := steps }) ∧
      s.unread = octetsOf found ++ ({ s with steps := steps } : Stream).unread := by
  obtain ⟨steps, idle, outlet, writes, now⟩ := s
  cases steps with
  | nil => exact ⟨_, [], rfl, rfl⟩
  | cons step rest =>
    obtain ⟨arrival, moment, writesBefore⟩ := step
    cases arrival with
    | failure kind => exact ⟨_, rest, rfl, rfl⟩
    | ending => exact ⟨_, _, rfl, rfl⟩
    | data octets =>
      by_cases fits : octets.length ≤ capacity
      · exact ⟨_, rest, if_pos fits, rfl⟩
      · -- What does not fit stays where it is, at the front of the steps.
        refine ⟨_, _, if_neg fits, ?_⟩
        simp only [unread, List.flatMap_cons, Arrival.octets, octetsOf]
        rw [← List.append_assoc, List.take_append_drop]

theorem Stream.unread_of_take {s left : Stream} {capacity : Nat} {octets : List UInt8}
    (taken : s.take capacity = (.ok octets, left)) : s.unread = octets ++ left.unread := by
  obtain ⟨found, steps, same, unread⟩ := s.exists_take_eq capacity
  rw [taken] at same
  cases same
  exact unread

/-! ## Counting -/

def StreamEvent.octetsRead : StreamEvent → Nat
  | .read length => length
  | _ => 0

def StreamEvent.isWrite : StreamEvent → Bool
  | .write _ | .writeError _ => true
  | _ => false

/-- How many octets have been read in a trace. -/
def octetsRead (trace : Trace) : Nat :=
  (events trace).foldr (fun event count => event.octetsRead + count) 0

/-- How many writes have been tried in a trace. -/
def writeCalls (trace : Trace) : Nat := (events trace).countP StreamEvent.isWrite

variable {trace later : Trace}

@[simp] theorem octetsRead_nil : octetsRead [] = 0 := rfl

@[simp] theorem writeCalls_nil : writeCalls [] = 0 := rfl

theorem octetsRead_append : octetsRead (trace ++ later) = octetsRead trace + octetsRead later := by
  have counts (list : List StreamEvent) (start : Nat) :
      list.foldr (fun event count => event.octetsRead + count) start =
        list.foldr (fun event count => event.octetsRead + count) 0 + start := by
    induction list with
    | nil => exact (Nat.zero_add start).symm
    | cons event rest ih => rw [List.foldr_cons, ih, List.foldr_cons, Nat.add_assoc]
  rw [octetsRead, events_append, List.foldr_append, counts]
  rfl

theorem writeCalls_append : writeCalls (trace ++ later) = writeCalls trace + writeCalls later := by
  simp [writeCalls]

theorem Silent.writeCalls_eq (silent : Silent trace) : writeCalls trace = 0 := by
  refine List.countP_eq_zero.mpr fun event member => ?_
  obtain ⟨mark, among, same⟩ := List.mem_filterMap.mp member
  have first := silent mark among
  generalize mark.2 = act at same first
  cases act <;> cases same
  cases event with
  | read | readError => exact Bool.false_ne_true
  | _ => cases first

/-! ## Accounts -/

/-- A trace that tells what has become of a stream. -/
structure Accounted (s : Stream) (trace : Trace) (left : Stream) : Prop where
  outlet_eq : left.outlet = s.outlet
  idle_eq : left.idle = s.idle
  writes_eq : left.writes = s.writes + writeCalls trace
  read_le : octetsRead trace ≤ s.unread.length
  unread_eq : left.unread = s.unread.drop (octetsRead trace)
  now_le : s.now ≤ left.now
  timely : ∀ mark ∈ trace, s.now ≤ mark.1 ∧ mark.1 ≤ left.now

theorem Accounted.refl (s : Stream) : Accounted s [] s where
  outlet_eq := rfl
  idle_eq := rfl
  writes_eq := rfl
  read_le := Nat.zero_le _
  unread_eq := rfl
  now_le := Nat.le_refl _
  timely := nofun

theorem Accounted.append {s middle left : Stream} (first : Accounted s trace middle)
    (last : Accounted middle later left) : Accounted s (trace ++ later) left where
  outlet_eq := last.outlet_eq.trans first.outlet_eq
  idle_eq := last.idle_eq.trans first.idle_eq
  writes_eq := by rw [last.writes_eq, first.writes_eq, writeCalls_append, Nat.add_assoc]
  read_le := by
    have fewer := last.read_le
    rw [first.unread_eq, List.length_drop] at fewer
    have all := first.read_le
    rw [octetsRead_append]
    omega
  unread_eq := by rw [last.unread_eq, first.unread_eq, List.drop_drop, octetsRead_append]
  now_le := Nat.le_trans first.now_le last.now_le
  timely := by
    intro mark member
    have before := first.now_le
    have after := last.now_le
    cases List.mem_append.mp member with
    | inl early =>
      have during := first.timely mark early
      omega
    | inr late =>
      have during := last.timely mark late
      omega

/-- One act at the present moment that reads nothing. -/
theorem Accounted.of_act {s left : Stream} {act : Act} (steps : left = { s with writes := left.writes })
    (unread : octetsRead [(s.now, act)] = 0)
    (writes : left.writes = s.writes + writeCalls [(s.now, act)]) : Accounted s [(s.now, act)] left where
  outlet_eq := by rw [steps]
  idle_eq := by rw [steps]
  writes_eq := writes
  read_le := unread ▸ Nat.zero_le _
  unread_eq := by
    rw [unread, List.drop_zero, steps]
    rfl
  now_le := Nat.le_of_eq (congrArg Stream.now steps).symm
  timely := by
    intro mark member
    cases List.mem_singleton.mp member
    rw [steps]
    exact ⟨Nat.le_refl _, Nat.le_refl _⟩

namespace Session

variable {α β : Type}

/-- A session whose trace tells what has become of the stream, if it comes to an end. -/
def Accounts (x : Session α) : Prop :=
  ∀ s trace a left, x.play s = (trace, some (a, left)) → Accounted s trace left

theorem Accounts.bind {x : Session α} {f : α → Session β} (first : Accounts x)
    (last : ∀ a, Accounts (f a)) : Accounts (x >>= f) := by
  intro s trace b left played
  rw [play_bind] at played
  rcases begun : x.play s with ⟨early, _ | ⟨a, middle⟩⟩
  · rw [begun] at played
    cases played
  · rcases goesOn : (f a).play middle with ⟨late, ended⟩
    rw [begun] at played
    simp only [goesOn] at played
    cases played
    exact (first _ _ _ _ begun).append (last _ _ _ _ _ goesOn)

theorem accounts_pure (a : α) : Accounts (pure a) := by
  rintro s _ _ _ ⟨⟩
  exact .refl s

/-! ### Primitives -/

theorem accounts_stall : Accounts (stall : Session α) := by
  rintro s _ _ _ ⟨⟩

theorem accounts_now : Accounts now := by
  rintro s _ _ _ ⟨⟩
  exact .refl s

theorem accounts_ready? : Accounts ready? := by
  rintro s _ _ _ ⟨⟩
  exact .refl s

theorem accounts_sleepUntil (moment : Nat) : Accounts (sleepUntil moment) := by
  rintro s _ _ _ ⟨⟩
  exact { Accounted.refl s with now_le := Nat.le_max_left _ _, timely := nofun }

theorem accounts_awaitFirst (moments : List (Option Nat × β)) : Accounts (awaitFirst moments) := by
  unfold awaitFirst
  split
  · exact accounts_stall
  · exact (accounts_sleepUntil _).bind fun _ => accounts_pure _

theorem accounts_note {act : Act} (noEvent : act.event? = none) : Accounts (note act) := by
  rintro s _ _ _ ⟨⟩
  exact .of_act rfl (by simp [octetsRead, noEvent]) (by simp [writeCalls, noEvent])

theorem accounts_log (entry : Log.Entry) : Accounts (log entry) := accounts_note rfl

theorem accounts_logAll (entries : List Log.Entry) : Accounts (logAll entries) := by
  induction entries with
  | nil => exact accounts_pure ()
  | cons entry rest ih => exact (accounts_log entry).bind fun _ => ih

theorem accounts_readNow (capacity : Nat) : Accounts (readNow capacity) := by
  intro s trace result left played
  obtain ⟨found, steps, taken, unread⟩ := s.exists_take_eq capacity
  have reads (event : StreamEvent) (length : event.octetsRead = (octetsOf found).length)
      (noWrite : event.isWrite = false) :
      Accounted s [(s.now, .stream event)] { s with steps := steps } := {
    outlet_eq := rfl
    idle_eq := rfl
    writes_eq := by simp [writeCalls, Act.event?, noWrite]
    read_le := by simp [octetsRead, Act.event?, length, unread]
    unread_eq := by simp [octetsRead, Act.event?, length, unread]
    now_le := Nat.le_refl _
    timely := by simp }
  cases found with
  | ok octets =>
    rw [play_readNow_ok taken] at played
    cases played
    exact reads _ rfl rfl
  | error kind =>
    rw [play_readNow_error taken] at played
    cases played
    exact reads _ rfl rfl

theorem accounts_receive (capacity : Nat) : Accounts (receive capacity) :=
  accounts_ready?.bind fun _ => (accounts_awaitFirst _).bind fun _ => accounts_readNow capacity

theorem accounts_flush : Accounts flush := by
  rintro s _ _ _ ⟨⟩
  exact .of_act rfl rfl rfl

theorem accounts_close : Accounts close := by
  rintro s _ _ _ ⟨⟩
  exact .of_act rfl rfl rfl

theorem accounts_writeOnce (octets : List UInt8) : Accounts (writeOnce octets) := by
  intro s trace result left played
  have once := writes_writeOnce octets s
  rw [played] at once
  cases once with
  | fails => exact .of_act rfl rfl rfl
  | takesNone => exact .of_act rfl rfl rfl
  | takes => exact .of_act rfl rfl rfl

theorem accounts_writeUpTo (writes : Nat) (octets : List UInt8) :
    Accounts (writeUpTo writes octets) := by
  induction writes generalizing octets with
  | zero => exact accounts_pure _
  | succ writes ih =>
    unfold writeUpTo
    split
    · exact accounts_pure _
    · apply (accounts_writeOnce octets).bind
      intro written
      cases written with
      | error e => exact accounts_pure _
      | ok rest => exact ih rest

theorem accounts_send (octets : List UInt8) : Accounts (send octets) := accounts_writeUpTo _ octets

end Session

end Hashgate
