/-
# Telematics.Link.Fabric -- the connections that there are

A connection joins two sides by a pipe in each direction, and it is hung up when
both directions have come to an end.  A side is known by a handle, which also
says how the other side is shown.

A side can stop writing, hang up, which ends both directions and leaves what is
queued, or go away, which throws away what it has not read and resets the
direction to the other side if there was any.  Both end both directions
(`isHungUp_hangUp`, `isHungUp_leave`).
-/
import Telematics.Link.Pipe

namespace Telematics.Link

set_option autoImplicit false

/-- The two sides of a connection. -/
inductive Side where
  | near
  | far
  deriving Repr, DecidableEq

def Side.other : Side → Side
  | .near => .far
  | .far => .near

/-- Crossing twice comes back. -/
@[simp] theorem Side.other_other (side : Side) : side.other.other = side := by
  cases side <;> rfl

/-- A connection: the pipes that each side writes. -/
structure Connection where
  fromNear : Pipe
  fromFar : Pipe
  deriving Repr, DecidableEq

namespace Connection

/-- A connection over which nothing has gone. -/
def new : Connection := ⟨.new, .new⟩

def outgoing (l : Connection) : Side → Pipe
  | .near => l.fromNear
  | .far => l.fromFar

def incoming (l : Connection) (side : Side) : Pipe :=
  l.outgoing side.other

/-- The connection with another pipe that a side writes. -/
def withOutgoing (l : Connection) (side : Side) (p : Pipe) : Connection :=
  match side with
  | .near => { l with fromNear := p }
  | .far => { l with fromFar := p }

/-- The connection with another pipe that a side reads. -/
def withIncoming (l : Connection) (side : Side) (p : Pipe) : Connection :=
  l.withOutgoing side.other p

/-- What one side reads is what the other writes. -/
theorem incoming_other (l : Connection) (side : Side) :
    l.incoming side.other = l.outgoing side := by
  rw [incoming, Side.other_other]

/-- A pipe put in place of what a side writes is what it writes. -/
@[simp] theorem outgoing_withOutgoing (l : Connection) (side : Side) (p : Pipe) :
    (l.withOutgoing side p).outgoing side = p := by
  cases side <;> rfl

/-- A pipe put in place of what a side reads is what it reads. -/
@[simp] theorem incoming_withIncoming (l : Connection) (side : Side) (p : Pipe) :
    (l.withIncoming side p).incoming side = p :=
  outgoing_withOutgoing l side.other p

/-- Whether both directions have come to an end. -/
def isHungUp (l : Connection) : Bool :=
  l.fromNear.ending ≠ .live && l.fromFar.ending ≠ .live

def read (l : Connection) (side : Side) (n : Nat) (timeout : Span) :
    Except LinkError (List UInt8) × Connection :=
  let (result, p) := (l.incoming side).read n timeout
  (result, l.withIncoming side p)

def write (l : Connection) (side : Side) (bytes : List UInt8) (timeout : Span) :
    Except LinkError Nat × Connection :=
  let (result, p) := (l.outgoing side).write bytes l.isHungUp timeout
  (result, l.withOutgoing side p)

def endWriting (l : Connection) (side : Side) : Connection :=
  l.withOutgoing side (l.outgoing side).finish

/-- Both directions come to an end. -/
def hangUp (l : Connection) : Connection :=
  ⟨l.fromNear.finish, l.fromFar.finish⟩

def leave (l : Connection) (side : Side) : Connection :=
  let unread := l.incoming side
  let out := if unread.queue.isEmpty then (l.outgoing side).finish
    else { l.outgoing side with ending := .reset }
  (l.withOutgoing side out).withIncoming side ⟨[], [], .ended⟩

/-- A pipe that has come to its end is not live. -/
theorem ending_finish (p : Pipe) : p.finish.ending ≠ .live := by
  unfold Pipe.finish
  split
  · simp
  · assumption

/-- Hanging up ends both directions. -/
theorem isHungUp_hangUp (l : Connection) : l.hangUp.isHungUp = true := by
  simp [isHungUp, hangUp, ending_finish]

/-- Going away ends both directions. -/
theorem isHungUp_leave (l : Connection) (side : Side) : (l.leave side).isHungUp = true := by
  by_cases h : (l.incoming side).queue.isEmpty <;> cases side <;>
    simp [leave, h, isHungUp, withIncoming, withOutgoing, outgoing, Side.other, ending_finish]

end Connection

/-- One side of a connection. -/
structure Handle where
  link : Nat
  side : Side
  /-- How the other side is shown. -/
  peer : String
  deriving Repr, DecidableEq

/-- How a side without a name is shown. -/
def unnamed : String := "unix:unnamed"

abbrev Fabric := List Connection

namespace Fabric

/-- A new connection; `peer` is how its far side is shown. -/
def connect (f : Fabric) (peer : String) : Fabric × Handle × Handle :=
  (f ++ [Connection.new], ⟨f.length, .near, peer⟩, ⟨f.length, .far, unnamed⟩)

def linkOf (f : Fabric) (h : Handle) : Connection :=
  f[h.link]?.getD Connection.new.hangUp

/-- The connections after something has happened to one. -/
def update (f : Fabric) (h : Handle) (l : Connection) : Fabric :=
  f.set h.link l

def incoming (f : Fabric) (h : Handle) : Pipe :=
  (f.linkOf h).incoming h.side

def outgoing (f : Fabric) (h : Handle) : Pipe :=
  (f.linkOf h).outgoing h.side

/-- The connections with another pipe that a side reads. -/
def withIncoming (f : Fabric) (h : Handle) (p : Pipe) : Fabric :=
  f.update h ((f.linkOf h).withIncoming h.side p)

/-- The connections with another pipe that a side writes. -/
def withOutgoing (f : Fabric) (h : Handle) (p : Pipe) : Fabric :=
  f.update h ((f.linkOf h).withOutgoing h.side p)

def isConnected (f : Fabric) (h : Handle) : Bool :=
  !(f.linkOf h).isHungUp

/-- Whether a side has something to read, the end included. -/
def isReadable (f : Fabric) (h : Handle) : Bool :=
  (f.incoming h).isReadable

/-- The bytes that a side could read now. -/
def queued (f : Fabric) (h : Handle) : List UInt8 :=
  (f.incoming h).queue

/-- The connections with some bytes in front of those that a side could read. -/
def putBack (f : Fabric) (h : Handle) (bytes : List UInt8) : Fabric :=
  f.withIncoming h ((f.incoming h).putBack bytes)

def read (f : Fabric) (h : Handle) (timeout : Span) (n : Nat) :
    Except LinkError (List UInt8) × Fabric :=
  let (result, l) := (f.linkOf h).read h.side n timeout
  (result, f.update h l)

def write (f : Fabric) (h : Handle) (timeout : Span) (bytes : List UInt8) :
    Except LinkError Nat × Fabric :=
  let (result, l) := (f.linkOf h).write h.side bytes timeout
  (result, f.update h l)

def endWriting (f : Fabric) (h : Handle) : Fabric :=
  f.update h ((f.linkOf h).endWriting h.side)

def hangUp (f : Fabric) (h : Handle) : Fabric :=
  f.update h (f.linkOf h).hangUp

def leave (f : Fabric) (h : Handle) : Fabric :=
  f.update h ((f.linkOf h).leave h.side)

end Fabric

end Telematics.Link
