/-!
# How a call ends

A C++ call returns, throws, or never gets back to its caller at all.  A throw
keeps the changes made before it, so both ways of ending carry a state.
-/

namespace Streaming
namespace Foundation

inductive Exit (state : Type) where
  | done (s : state)
  | threw (what : String) (s : state)
  /-- The call has no defined result: the process is gone. -/
  | crashed

namespace Exit

variable {state : Type}

/-- Go on with the next call after a normal return. -/
def bind (e : Exit state) (next : state -> Exit state) : Exit state :=
  match e with
  | .done s => next s
  | .threw what s => .threw what s
  | .crashed => .crashed

/-- Two calls end in the same way, in related states. -/
inductive Related {state' : Type} (R : state -> state' -> Prop) :
    Exit state -> Exit state' -> Prop
  | done {s : state} {t : state'} (h : R s t) : Related R (.done s) (.done t)
  | threw {s : state} {t : state'} (what : String) (h : R s t) :
      Related R (.threw what s) (.threw what t)
  | crashed : Related R .crashed .crashed

theorem Related.bind {state' : Type} {R : state -> state' -> Prop}
    {e : Exit state} {e' : Exit state'} {next : state -> Exit state}
    {next' : state' -> Exit state'} (h : Related R e e')
    (hnext : forall s t, R s t -> Related R (next s) (next' t)) :
    Related R (e.bind next) (e'.bind next') := by
  cases h with
  | done h => exact hnext _ _ h
  | threw what h => exact .threw what h
  | crashed => exact .crashed

end Exit

end Foundation
end Streaming
