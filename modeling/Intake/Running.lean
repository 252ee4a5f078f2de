import Intake.Metrics

/-!
# Running stages

A stage with the world around it and the counters of what its workers did.
Settling lets workers move, the outermost one that can first, until none of them
has a step left.
-/

namespace Intake

/-- A stage that runs. -/
structure Running where
  stage : Stage
  world : World
  metrics : Metrics := []
  deriving Inhabited

namespace Running

/-- What has become of a stage and its world after a step. -/
def after (running : Running) (move : StageMove) : Running :=
  { stage := move.stage
    world := { running.world with receipts := move.receipts, stdin := move.stdin }
    metrics := running.metrics.count move.event }

/-- A step of the worker at a level, if it has one. -/
def work (running : Running) (level : Nat) : Option (Event × Running) :=
  (running.stage.step running.world level).map fun move => (move.event, running.after move)

/-- Lets workers move for up to `patience` steps. -/
def settleFor : Nat → Running → Running
  | 0, running => running
  | patience + 1, running =>
      match running.stage.stepAny running.world with
      | none => running
      | some move => settleFor patience (running.after move)

/-- More steps than any stage takes that comes to rest at all: one that keeps on
restarting an input without messages does not. -/
def patience : Nat := 1000000000

/-- Lets workers move until none of them has a step left. -/
def settle (running : Running) : Running := running.settleFor patience

def receive (running : Running) : Received × Running :=
  let (stage, receipts) := running.stage.take running.world.receipts
  (running.stage.outlet.offer,
    { running with stage, world := { running.world with receipts } })

def close (running : Running) : Running := { running with stage := running.stage.close }

def letGo (running : Running) : Running :=
  let (stage, receipts) := running.stage.letGo running.world.receipts
  { running with stage, world := { running.world with receipts } }

/-- Answers a transaction.  The first value tells whether its producer was there
to take the response. -/
def respond (running : Running) (number : Nat) (response : Response) : Bool × Running :=
  let (delivered, receipts) := running.world.receipts.respond number response
  (delivered, { running with world := { running.world with receipts } })

def forsake (running : Running) (number : Nat) : Running :=
  { running with
    world := { running.world with receipts := running.world.receipts.forsake number } }

end Running

/-- What is counted while a stage that has been given up comes to rest. -/
def BuildFailure.metrics (failure : BuildFailure) : Metrics :=
  match failure.orphan with
  | none => []
  | some stage => ({ stage, world := {} : Running }).settle.metrics.nonzero

end Intake
