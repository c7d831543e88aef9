/-!
# Sinks

A sink takes bytes. It may have room for only so many of them: then it takes what fits of a
write, and when no room is left it either refuses the next write or takes nothing of it. It also
takes flushes, which it counts, and which it may be set to fail.

These are not all the sinks that one may meet. There are none here that take less of a write than
they have room for, none that fail and go on to take later writes, and none whose writes are
interrupted and have to be tried again.

* `Sink.offer`: one write, which may be taken in part;
* `Sink.writeAll`: writes until everything is taken or something fails;
* `Writing`: the actions that only write to a sink.
-/

namespace SlotDispatch

/-- What a sink does with a write when it has no room left. -/
inductive WhenFull where
  /-- It fails. -/
  | refuse
  /-- It takes no bytes. -/
  | takeNothing
deriving DecidableEq

/-- Why a write or a flush failed. -/
inductive SinkFault where
  /-- The sink refused the write. -/
  | closed
  /-- The sink took no bytes of a write. -/
  | nothingTaken
  /-- The sink failed to flush. -/
  | flushFailed
  /-- The writer gave up for a reason of its own. -/
  | givenUp (reason : String)
deriving DecidableEq

/-- The fault in words. -/
def SinkFault.message : SinkFault → String
  | .closed => "sink closed"
  | .nothingTaken => "failed to write whole buffer"
  | .flushFailed => "flush failed"
  | .givenUp reason => reason

/-- A sink, with what it has taken. -/
structure Sink where
  /-- The bytes that it has taken. -/
  written : List UInt8 := []
  /-- How many bytes it has room for, if that is limited. -/
  room : Option Nat := none
  /-- What it does when there is no room. -/
  whenFull : WhenFull := .takeNothing
  /-- Whether flushes fail. -/
  flushFails : Bool := false
  /-- How often it was told to flush. -/
  flushes : Nat := 0
deriving DecidableEq

/-- Actions that only write to a sink. What was written before a failure stays written. -/
abbrev Writing := EStateM SinkFault Sink

namespace Sink

/-- One write. Gives the number of bytes that are taken. -/
def offer (bytes : List UInt8) : Writing Nat := fun sink =>
  match sink.room with
  | none => .ok bytes.length { sink with written := sink.written ++ bytes }
  | some 0 =>
    match sink.whenFull with
    | .refuse => .error .closed sink
    | .takeNothing => .ok 0 sink
  | some room =>
    let taken := min room bytes.length
    .ok taken { sink with written := sink.written ++ bytes.take taken, room := some (room - taken) }

/-- Writes again and again until all bytes are taken. It fails if the sink does, and if the sink
    takes nothing. -/
def writeAll : List UInt8 → Writing Unit
  | [], sink => .ok () sink
  | byte :: bytes, sink =>
    match offer (byte :: bytes) sink with
    | .error fault sink => .error fault sink
    | .ok 0 sink => .error .nothingTaken sink
    | .ok (taken + 1) sink => writeAll (bytes.drop taken) sink
termination_by bytes => bytes.length
decreasing_by
  simp only [List.length_drop, List.length_cons]
  omega

/-- The bytes of a text. -/
def bytesOf (text : String) : List UInt8 := text.toUTF8.data.toList

/-- Writes a text. -/
def write (text : String) : Writing Unit := writeAll (bytesOf text)

/-- Tells the sink to flush. -/
def flush : Writing Unit := fun sink =>
  let sink := { sink with flushes := sink.flushes + 1 }
  if sink.flushFails then .error .flushFailed sink else .ok () sink

end Sink

end SlotDispatch
