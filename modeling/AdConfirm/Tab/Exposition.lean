import AdConfirm.Tab.Sessions

/-!
The numbers that tab sessions keep, as text: for each one a line of help, its type, and its value.
-/

namespace AdConfirm.Tab

/-- what kind of number one is: a gauge goes up and down, a counter only up -/
inductive MetricType where
  | counter
  | gauge
  deriving DecidableEq

def MetricType.name : MetricType → String
  | .counter => "counter"
  | .gauge => "gauge"

structure Metric where
  name : String
  help : String
  type : MetricType
  value : Int

/-- the numbers in the order of their names -/
def Metrics.all (m : Metrics) : List Metric :=
  [⟨"abandoned_requests_total", "Pending viewed-event requests dropped by a tab reset", .counter, m.abandonedRequests⟩,
    ⟨"ads_stored_total", "Search result ads stored after ingestion", .counter, m.adsStored⟩,
    ⟨"pending_viewed_requests", "Viewed-event requests waiting for ingestion", .gauge, m.pending⟩,
    ⟨"stale_completions_total", "Ingestion completions dropped because the tab moved on", .counter, m.staleCompletions⟩,
    ⟨"tabs", "Tabs with ad session state", .gauge, m.tabs⟩]

def Metric.text (m : Metric) : String :=
  let name := "searchads_registry_" ++ m.name
  "# HELP " ++ name ++ " " ++ m.help ++ "\n# TYPE " ++ name ++ " " ++ m.type.name ++ "\n"
    ++ name ++ " " ++ toString m.value ++ "\n"

def Metrics.text (m : Metrics) : String := String.join (m.all.map Metric.text)

end AdConfirm.Tab
