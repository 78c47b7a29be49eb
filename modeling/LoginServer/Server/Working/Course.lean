import LoginServer.Server.Working.Connection

/-!
# The course of a worker

What a worker has done so far, if nothing breaks and it hears of no shutdown.
Between any two of its steps other connections may change what is shared.
-/

namespace LoginServer.Working

/-- The bytes that have arrived, the bytes that a worker has sent, the exchanges
it has recorded, and its connection as it is now. -/
structure Course where
  arrived : Bytes
  sent : Bytes
  exchanges : List Exchange
  connection : Connection

namespace Course

/-- A course and then one step. -/
def followedBy (course : Course) (worked : Worked) : Course :=
  { course with
    sent := course.sent ++ worked.sent
    exchanges := course.exchanges ++ worked.exchanges
    connection := worked.connection }

/-- An admitted connection before its greeting. -/
def admitted (slot : Slot) (limit : Nat) : Course :=
  { arrived := [], sent := [], exchanges := []
    connection := .opened slot limit }

/-- The courses of a worker that greets, looks for lines while it can find some,
and otherwise waits until bytes arrive or the stream ends. -/
inductive Smooth (slot : Slot) (limit : Nat) : Course → Prop where
  | greeting (shared : Shared) :
      Smooth slot limit
        ((admitted slot limit).followedBy
          ((admitted slot limit).connection.greet shared none))
  | look {course : Course} (shared : Shared) :
      Smooth slot limit course →
      course.connection.isBusy = true →
      Smooth slot limit
        (course.followedBy
          (course.connection.step shared (.next none none)))
  | arrival {course : Course} (shared : Shared) (bytes : Bytes) :
      Smooth slot limit course →
      course.connection.phase = .waiting →
      Smooth slot limit
        ({ course with arrived := course.arrived ++ bytes }.followedBy
          (course.connection.step shared (.arrival bytes)))
  | endOfStream {course : Course} (shared : Shared) :
      Smooth slot limit course →
      course.connection.phase = .waiting →
      Smooth slot limit
        (course.followedBy (course.connection.step shared .endOfStream))

end Course
end LoginServer.Working
