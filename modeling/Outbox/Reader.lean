import Outbox.Channel
import Outbox.Disk.Error

/-!
The reader: it cuts its input into lines and forwards each as a record, a line feed at its end. A
carriage return before a line feed is part of the line end. The input may come in pieces of any
length.
-/

set_option autoImplicit false

namespace Outbox

structure Reader where
  /-- The bytes since the last line end, the last one first. -/
  unfinished : Bytes
  /-- Records that have been read and not forwarded; a failure ends them. -/
  ready : List (Except IoError Bytes)
  ended : Bool
  forwarded : Nat
  /-- How the reader has finished: with a number of records, or because the input failed. -/
  result : Option (Except IoError Nat)

namespace Reader

def start : Reader :=
  { unfinished := [], ready := [], ended := false, forwarded := 0, result := none }

def lineFeed : UInt8 := 10

def carriageReturn : UInt8 := 13

/-- A line as a record: the line as it is, if it is a text, and a line feed. -/
def record (line : Bytes) : Except IoError Bytes :=
  match Utf8.decode line with
  | .ok _ => .ok (line ++ [lineFeed])
  | .error cause => .error (.malformedLine cause)

/-- The record of a line that ended in a line feed, from its bytes, the last one first. -/
def terminated (reversed : Bytes) : Except IoError Bytes :=
  match reversed with
  | [] => record []
  | last :: rest => record (if last = carriageReturn then rest.reverse else reversed.reverse)

/-- The records that bytes complete, last first, and the bytes of the unfinished line, last
first. -/
def cut (unfinished : Bytes) (found : List (Except IoError Bytes)) :
    Bytes → Bytes × List (Except IoError Bytes)
  | [] => (unfinished, found)
  | b :: rest =>
    if b = lineFeed then cut [] (terminated unfinished :: found) rest
    else cut (b :: unfinished) found rest

def feed (r : Reader) (bytes : Bytes) : Reader :=
  let (unfinished, found) := cut r.unfinished [] bytes
  { r with unfinished, ready := r.ready ++ found.reverse }

/-- Reads the end of the input: a line that is not empty needs no line end. -/
def finish (r : Reader) : Reader :=
  { r with
    unfinished := []
    ready := r.ready ++ (if r.unfinished = [] then [] else [record r.unfinished.reverse])
    ended := true }

/-- The input fails; an unfinished line is lost. -/
def fail (r : Reader) (cause : IoError) : Reader :=
  { r with unfinished := [], ready := r.ready ++ [.error cause], ended := true }

/-- Stops a reader that has not finished. -/
def cancel (r : Reader) : Reader :=
  { r with result := r.result.or (some (.ok r.forwarded)) }

/-- One step: a record is forwarded if there is room, or the reader finishes. -/
def step (r : Reader) (c : Channel) : Reader × Channel :=
  if r.result.isSome then (r, c)
  else
    match r.ready with
    | [] => if r.ended then ({ r with result := some (.ok r.forwarded) }, c.finish) else (r, c)
    | .error cause :: _ => ({ r with result := some (.error cause) }, c.finish)
    | .ok record :: rest =>
      match c.offer record with
      | .sent c => ({ r with ready := rest, forwarded := r.forwarded + 1 }, c)
      | .full => (r, c)
      | .refused => ({ r with result := some (.ok r.forwarded) }, c.finish)

def steps : Nat → Reader → Channel → Reader × Channel
  | 0, r, c => (r, c)
  | n + 1, r, c =>
    match r.step c with
    | (r, c) => steps n r c

/-- Goes on as far as there is room for records. -/
def run (r : Reader) (c : Channel) : Reader × Channel :=
  steps (min r.ready.length (c.capacity - c.queue.length) + 1) r c

end Reader

end Outbox
