/-
# Telematics.Link.Pipe -- one direction of a connection

A pipe is a queue of bytes that one side writes and the other reads.  It may come
to an end; what is in the queue can still be read then.  If the reader goes away
without having read everything, the other direction is reset: behind its queue
stands a failure, and behind that the end.

What is in the queue takes up room, packet by packet.  More may be written as long
as there is any, but the pipe counts as ready for writing only while less than a
quarter is taken.
-/
import Telematics.Link.Packet
import Telematics.Link.Transfer

namespace Telematics.Link

set_option autoImplicit false

/-- What stands behind the bytes of a pipe. -/
inductive Ending where
  /-- More bytes may come. -/
  | live
  /-- The end. -/
  | ended
  /-- A failure, and behind it the end. -/
  | reset
  deriving Repr, DecidableEq

/-- One direction of a connection. -/
structure Pipe where
  queue : List UInt8
  packets : List Packet
  ending : Ending
  deriving Repr, DecidableEq

namespace Pipe

/-- A pipe in which there is nothing yet. -/
def new : Pipe := ⟨[], [], .live⟩

/-- Whether reading would not have to wait. -/
def isReadable (p : Pipe) : Bool :=
  !p.queue.isEmpty || p.ending ≠ .live

/-- Whether anything can be written. -/
def hasRoom (p : Pipe) : Bool :=
  Packet.load p.packets < Packet.loadLimit

/-- Whether writing would not have to wait. -/
def isWritable (p : Pipe) : Bool :=
  4 * Packet.load p.packets < Packet.loadLimit

/-- The pipe without a future. -/
def finish (p : Pipe) : Pipe :=
  if p.ending = .live then { p with ending := .ended } else p

/-- One attempt to read at most `n` bytes, which go behind those read before. -/
def readSome (n : Nat) (s : Pipe × List UInt8) : Attempt × (Pipe × List UInt8) :=
  let (p, buffer) := s
  if p.queue.isEmpty then
    match p.ending with
    | .live => (.blocked, s)
    | .ended => (.moved 0, s)
    | .reset => (.failed .connectionReset, ({ p with ending := .ended }, buffer))
  else
    (.moved (min n p.queue.length),
      ({ p with queue := p.queue.drop n, packets := Packet.drop n p.packets },
        buffer ++ p.queue.take n))

/-- One attempt to write at most `n` of the bytes that are left. -/
def writeSome (n : Nat) (s : Pipe × List UInt8) : Attempt × (Pipe × List UInt8) :=
  let (p, rest) := s
  if p.ending ≠ .live then (.failed .brokenPipe, s)
  else
    let packets := Packet.packetsOf (Packet.load p.packets) n
    let count := Packet.size packets
    if count = 0 then (.blocked, s)
    else (.moved count,
      ({ p with queue := p.queue ++ rest.take count, packets := p.packets ++ packets },
        rest.drop count))

/-- The pipe with some bytes in front, which take up no room. -/
def putBack (p : Pipe) (bytes : List UInt8) : Pipe :=
  { p with queue := bytes ++ p.queue, packets := ⟨bytes.length, 0⟩ :: p.packets }

def read (p : Pipe) (n : Nat) (timeout : Span) : Except LinkError (List UInt8) × Pipe :=
  let (result, (p, buffer)) :=
    (Transfer.mk .read timeout n readSome).run p.isReadable (p, [])
  (result.map fun _ => buffer, p)

/-- Writes some bytes; a connection that is hung up does not keep the writer waiting. -/
def write (p : Pipe) (bytes : List UInt8) (hungUp : Bool) (timeout : Span) :
    Except LinkError Nat × Pipe :=
  let (result, (p, _)) :=
    (Transfer.mk .write timeout bytes.length writeSome).run (hungUp || p.isWritable) (p, bytes)
  (result, p)

end Pipe

end Telematics.Link
