import Intake.Stage

/-!
# Metrics

What workers did, counted.  Each counter belongs to a family with a name and a
help text; the counters of pumps are told apart by the kind of the input.
-/

namespace Intake

/-- Families of counters, in the order of their names. -/
inductive MetricFamily where
  | finalPropagated
  | finalResponseError
  | finalResponseSent
  | inputClosed
  | propagated
  | received
  | restartError
  | restartSuccess
  | running
  | streamRejected
  | streamSent
  deriving Repr, DecidableEq, Inhabited

namespace MetricFamily

def all : List MetricFamily :=
  [finalPropagated, finalResponseError, finalResponseSent, inputClosed, propagated, received,
    restartError, restartSuccess, running, streamRejected, streamSent]

/-- The name of a family, without what all of them begin with. -/
def shortName : MetricFamily → String
  | finalPropagated => "read_until_final_propagated_total"
  | finalResponseError => "read_until_final_response_error_total"
  | finalResponseSent => "read_until_final_response_sent_total"
  | inputClosed => "read_until_input_closed_total"
  | propagated => "read_until_propagated_total"
  | received => "read_until_received_total"
  | restartError => "read_until_restart_error_total"
  | restartSuccess => "read_until_restart_success_total"
  | running => "read_until_running"
  | streamRejected => "stream_rejected_total"
  | streamSent => "stream_sent_total"

def name (family : MetricFamily) : String := "pipeline_input_" ++ family.shortName

/-- What a family counts. -/
def help : MetricFamily → String
  | finalPropagated => "Number of candidate final messages forwarded downstream"
  | finalResponseError => "Number of candidate final messages rejected downstream"
  | finalResponseSent => "Number of candidate final responses relayed to the wrapped input"
  | inputClosed => "Number of times a wrapped input exhausted itself"
  | propagated => "Number of transactions forwarded downstream unchanged"
  | received => "Number of transactions received from the wrapped input"
  | restartError =>
      "Number of wrapped inputs that failed to be recreated after exhaustion"
  | restartSuccess => "Number of wrapped inputs successfully recreated after exhaustion"
  | running => "Number of read_until workers currently running"
  | streamRejected => "Number of transactions rejected or dropped downstream"
  | streamSent => "Number of transactions sent by stream inputs, including redeliveries"

/-- Whether the numbers of a family also go down. -/
def isGauge : MetricFamily → Bool
  | running => true
  | _ => false

end MetricFamily

/-- One counter: a family, and the kind of input for the families that tell
kinds apart. -/
structure Metric where
  family : MetricFamily
  kind : Option String := none
  deriving Repr, DecidableEq, Inhabited

/-- The text of a counter, without what all of them begin with. -/
def Metric.text (metric : Metric) : String :=
  match metric.kind with
  | none => metric.family.shortName
  | some kind => metric.family.shortName ++ "\x7binput=\"" ++ kind ++ "\"\x7d"

/-- What a step adds to the counters. -/
def Event.counts : Event → List (Metric × Int)
  | .pump kind (.sent _) => [(⟨.streamSent, some kind⟩, 1)]
  | .pump kind (.rejected _) => [(⟨.streamRejected, some kind⟩, 1)]
  | .pump _ _ => []
  | .guard .started => [(⟨.running, none⟩, 1)]
  | .guard .inputEnded => [(⟨.inputClosed, none⟩, 1)]
  | .guard .rebuilt => [(⟨.restartSuccess, none⟩, 1)]
  | .guard (.rebuildFailed _) => [(⟨.restartError, none⟩, 1)]
  | .guard (.received _ _) => [(⟨.received, none⟩, 1)]
  | .guard (.forwarded _) => [(⟨.propagated, none⟩, 1)]
  | .guard (.intercepted _ _) => [(⟨.finalPropagated, none⟩, 1)]
  | .guard (.relayed _ response) =>
      (⟨.finalResponseSent, none⟩, 1) ::
        if response.isAck then [] else [(⟨.finalResponseError, none⟩, 1)]
  | .guard .stopped => [(⟨.running, none⟩, -1)]
  | .guard _ => []

/-- Counters with their values, in the order in which they were first used. -/
abbrev Metrics := List (Metric × Int)

namespace Metrics

def value (metrics : Metrics) (metric : Metric) : Int :=
  match metrics with
  | [] => 0
  | (other, value) :: rest => if other = metric then value else Metrics.value rest metric

def add (metrics : Metrics) (metric : Metric) (amount : Int) : Metrics :=
  match metrics with
  | [] => [(metric, amount)]
  | (other, value) :: rest =>
      if other = metric then (other, value + amount) :: rest
      else (other, value) :: Metrics.add rest metric amount

def count (metrics : Metrics) (event : Event) : Metrics :=
  event.counts.foldl (fun metrics entry => metrics.add entry.1 entry.2) metrics

def nonzero (metrics : Metrics) : Metrics := metrics.filter fun entry => entry.2 ≠ 0

theorem value_add (metrics : Metrics) (metric other : Metric) (amount : Int) :
    (metrics.add metric amount).value other =
      metrics.value other + if metric = other then amount else 0 := by
  induction metrics with
  | nil => simp [add, value]
  | cons entry rest ih =>
      obtain ⟨first, value⟩ := entry
      by_cases same : first = metric
      · subst same
        by_cases found : first = other <;> simp [add, Metrics.value, found]
      · by_cases found : first = other
        · subst found
          simp [add, Metrics.value, same, Ne.symm same]
        · simp [add, Metrics.value, same, found, ih]

end Metrics

end Intake
