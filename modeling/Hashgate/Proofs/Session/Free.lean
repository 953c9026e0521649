import Hashgate.Proofs.Gate.Conversation

/-! # Streams that take everything

Where nothing can go wrong with writing, a message is written by one write, and an empty one by none.  So
what is said there can be told exactly.

* `play_send_free` — writing a message.
* `play_say_free`, `play_hangUp_free`, `play_giveUp_free` — what a gate says.
-/

namespace Hashgate

theorem Stream.flushFault?_of_free {s : Stream} (free : s.outlet = .free) : s.flushFault? = none := by
  rw [flushFault?, free]
  rfl

namespace Session

variable {s : Stream}

/-- The one write of a message that is not empty. -/
def sentence (moment : Nat) (octets : List UInt8) : Trace :=
  if octets = [] then [] else [(moment, .stream (.write octets))]

/-- The stream after a message. -/
def afterSentence (octets : List UInt8) (s : Stream) : Stream :=
  if octets = [] then s else countWrite s

theorem play_send_free (free : s.outlet = .free) (octets : List UInt8) :
    (send octets).play s = (sentence s.now octets, some (.ok (), afterSentence octets s)) := by
  cases octets with
  | nil => rfl
  | cons octet rest =>
    have takes : s.put (octet :: rest) = (.ok (octet :: rest), countWrite s) := by
      simp [Stream.put, Stream.writeFault?, free, Outlet.free]
    have written : (writeOnce (octet :: rest)).play s =
        ([(s.now, .stream (.write (octet :: rest)))], some (.ok [], countWrite s)) := by
      simp [play, writeOnce, takes]
    have done (writes : Nat) : writeUpTo writes [] = pure (.ok ()) := by cases writes <;> rfl
    rw [send, List.length_cons, writeUpTo, if_neg (by simp), play_bind_of_some _ written]
    simp only [done]
    rfl

theorem play_send_free_cons (free : s.outlet = .free) {octets : List UInt8} (nonempty : octets ≠ []) :
    (send octets).play s =
      ([(s.now, .stream (.write octets))], some (.ok (), countWrite s)) := by
  rw [play_send_free free, sentence, if_neg nonempty, afterSentence, if_neg nonempty]

end Session

namespace Gate

open Session

variable {s : Stream}

theorem play_say_free (free : s.outlet = .free) {message : String}
    (nonempty : Utf8.ofString message ≠ []) :
    (say message).play s =
      ([(s.now, .log (Log.debug "write message" [("message", message)])), (s.now, .attempt message),
        (s.now, .stream (.write (Utf8.ofString message))), (s.now, .stream .flush)],
        some (.ok (), countWrite s)) := by
  have flushes : (countWrite s).flushFault? = none := Stream.flushFault?_of_free free
  simp [say, play_bind, play_send_free_cons free nonempty, flushes, failWith]

theorem play_hangUp_free (free : s.outlet = .free) :
    hangUp.play s =
      ([(s.now, .log (Log.debug "close TCP connection" [])), (s.now, .stream .close)],
        some ((), s)) := by
  simp [play_hangUp, complaint, free, Outlet.free]

theorem play_giveUp_free (free : s.outlet = .free) :
    giveUp.play s =
      ([(s.now, .log (Log.debug "write message" [("message", contextDoneNotice)])),
        (s.now, .attempt contextDoneNotice),
        (s.now, .stream (.write (Utf8.ofString contextDoneNotice))), (s.now, .stream .flush),
        (s.now, .log (Log.debug "close TCP connection" [])), (s.now, .stream .close)],
        some (.timedOut, countWrite s)) := by
  have stillFree : (countWrite s).outlet = .free := free
  simp [giveUp, dismiss, play_bind, play_say_free free (by decide : Utf8.ofString contextDoneNotice ≠ []),
    play_hangUp_free stillFree]

end Gate

end Hashgate
