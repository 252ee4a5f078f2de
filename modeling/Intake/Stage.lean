import Intake.Stage.Guard
import Intake.Stage.Pump

/-!
# Stages

An input that runs is a stage: a pump, or a guard around another stage.  Each
level of the nesting has a worker of its own, and a step of a worker changes its
own level, the receipts it shares with its neighbours, and what it does to the
stage right below.
-/

namespace Intake

/-- What stages share. -/
structure World where
  receipts : Receipts := {}
  disk : Disk := fun _ => .error .notFound
  stdin : ByteSource := .ofBytes []
  deriving Inhabited

/-- An input that runs. -/
inductive Stage where
  | pump (pump : Pump)
  | guard (guard : Guard) (wrapped : Stage)
  deriving Inhabited

/-- What a step of a worker did. -/
inductive Event where
  | pump (kind : String) (event : PumpEvent)
  | guard (event : GuardEvent)
  deriving Repr, DecidableEq

/-- A step of a worker with all that it changes. -/
structure StageMove where
  event : Event
  stage : Stage
  receipts : Receipts
  stdin : ByteSource

/-- Why a stage could not be built, and the stage below it that had been built
by then and has been asked to close. -/
structure BuildFailure where
  error : InputError
  orphan : Option Stage := none
  deriving Inhabited

namespace Stage

def depth : Stage → Nat
  | pump _ => 0
  | guard _ wrapped => wrapped.depth + 1

/-- The outlet of the outermost worker. -/
def outlet : Stage → Outlet
  | pump leaf => leaf.outlet
  | guard head _ => head.outlet

/-- Changes the outlet of the outermost worker. -/
def withOutlet (stage : Stage) (outlet : Outlet) : Stage :=
  match stage with
  | pump leaf => .pump { leaf with outlet }
  | guard head wrapped => .guard { head with outlet } wrapped

/-- Whether the stage has confirmed that it has closed. -/
def isClosed (stage : Stage) : Bool := stage.outlet.shutdown.closed

def take (stage : Stage) (receipts : Receipts) : Stage × Receipts :=
  let (outlet, receipts) := stage.outlet.take receipts
  (stage.withOutlet outlet, receipts)

def close (stage : Stage) : Stage := stage.withOutlet stage.outlet.close

def letGo (stage : Stage) (receipts : Receipts) : Stage × Receipts :=
  let (outlet, receipts) := stage.outlet.letGo receipts
  (stage.withOutlet outlet, receipts)

def ofSource (kind : String) (source : Source) : Stage := .pump { kind, source }

/-- Builds the stage of a configured input.  Without a `runtime` nobody would
run its workers. -/
def build (disk : Disk) (runtime : Bool) : InputConfig → Except BuildFailure Stage
  | .file path multipart =>
      match disk path with
      | .error error => .error { error := .unopened path error }
      | .ok node =>
          if runtime then
            .ok (.ofSource InputKind.file.name (.lines { multipart } [] (.own (.ofNode node))))
          else .error { error := .noRuntime }
  | .stdin multipart =>
      if runtime then
        .ok (.ofSource InputKind.stdin.name (.lines { multipart } [] .standard))
      else .error { error := .noRuntime }
  | .memory messages =>
      if runtime then
        .ok (.ofSource InputKind.memory.name
          (.listed (messages.map fun text => .ok (.single (Utf8.encode text)))))
      else .error { error := .noRuntime }
  | .readUntil none _ _ => .error { error := .missingChild }
  | .readUntil (some input) restart condition =>
      if !runtime then .error { error := .noRuntime }
      else
        match build disk runtime input with
        | .error failure => .error { failure with error := .child input.kind failure.error }
        | .ok wrapped =>
            match Condition.build condition with
            | .error source =>
                .error { error := .condition condition.kind source
                         orphan := some (wrapped.letGo {}).1 }
            | .ok condition => .ok (.guard { input, restart, condition } wrapped)

/-- What a guard sees of the stage that it wraps. -/
def sight (disk : Disk) (input : InputConfig) (wrapped : Stage) : Sight Stage where
  offer := wrapped.outlet.offer
  confirmed := wrapped.isClosed
  rebuild := fun _ => (build disk true input).mapError (·.error)

/-- What a guard does to the stage that it wraps. -/
def obey (wrapped : Stage) (receipts : Receipts) : Demand Stage → Stage × Receipts
  | .nothing => (wrapped, receipts)
  | .take => wrapped.take receipts
  | .close => (wrapped.close, receipts)
  | .letGo => wrapped.letGo receipts
  | .replace input => (input, receipts)

/-- The next step of the worker at a level, counted from the outside, if it has
one. -/
def step (world : World) : Nat → Stage → Option StageMove
  | 0, .pump leaf =>
      (leaf.step world.receipts world.stdin).map fun move =>
        ⟨.pump leaf.kind move.event, .pump move.pump, move.receipts, move.stdin⟩
  | 0, .guard head wrapped =>
      (head.step (wrapped.sight world.disk head.input) world.receipts).map fun move =>
        let (wrapped, receipts) := wrapped.obey move.receipts move.demand
        ⟨.guard move.event, .guard move.guard wrapped, receipts, world.stdin⟩
  | _ + 1, .pump _ => none
  | level + 1, .guard head wrapped =>
      (step world level wrapped).map fun move =>
        { move with stage := .guard head move.stage }

/-- The next step of the outermost worker that has one. -/
def stepAny (world : World) (stage : Stage) : Option StageMove :=
  (List.range (stage.depth + 1)).findSome? fun level => stage.step world level

end Stage

end Intake
