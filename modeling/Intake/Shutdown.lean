/-!
# Shutting down

Stopping a stage has two phases: someone requests it, which happens once
however many ask, and the stage confirms it when it has cleaned up.
-/

namespace Intake

/-- The state that everyone concerned with a stage shares.  The signal that
the stage watches may also be raised directly, without a request. -/
structure Shutdown where
  requested : Bool := false
  signalled : Bool := false
  closed : Bool := false
  deriving Repr, DecidableEq, Inhabited

namespace Shutdown

/-- Whether nobody has requested the stage to close. -/
def isRunning (shutdown : Shutdown) : Bool := !shutdown.requested

/-- Requests the stage to close.  The second value tells whether this was the
first request. -/
def requestClose (shutdown : Shutdown) : Shutdown × Bool :=
  if shutdown.requested then (shutdown, false)
  else ({ shutdown with requested := true, signalled := true }, true)

def request (shutdown : Shutdown) : Shutdown := shutdown.requestClose.1

/-- Raises the signal without a request. -/
def signal (shutdown : Shutdown) : Shutdown := { shutdown with signalled := true }

/-- The stage confirms that it has closed. -/
def confirm (shutdown : Shutdown) : Shutdown := { shutdown with closed := true }

@[simp] theorem request_requested (shutdown : Shutdown) :
    shutdown.request.requested = true := by
  cases h : shutdown.requested <;> simp [request, requestClose, h]

@[simp] theorem request_closed (shutdown : Shutdown) :
    shutdown.request.closed = shutdown.closed := by
  cases h : shutdown.requested <;> simp [request, requestClose, h]

@[simp] theorem confirm_closed (shutdown : Shutdown) : shutdown.confirm.closed = true := rfl

@[simp] theorem confirm_requested (shutdown : Shutdown) :
    shutdown.confirm.requested = shutdown.requested := rfl

end Shutdown

end Intake
