import OriginGate.Metrics.Recorder

/-!
# Showing the counts

The lines in which the counts are read by a monitoring system, sorted: for each metric its
description, its type and one sample for each combination of labels. Latencies are shown by
their number only.
-/

namespace OriginGate.Metrics

open Text

/-! ## Labels -/

/-- The value of a label between quotes. Line ends and quotes are escaped. A backslash is held
back: it is written twice before an ordinary character or at the end, dropped by a quote, and
passed by a line end; two backslashes in a row are written as two. -/
def escapeLabel (held : Bool) : List Char → List Char
  | [] => if held then ['\\', '\\'] else []
  | c :: cs =>
    if c = '\n' then '\\' :: 'n' :: escapeLabel held cs
    else if c = '"' then '\\' :: '"' :: escapeLabel false cs
    else if c = '\\' then
      if held then '\\' :: '\\' :: escapeLabel false cs else escapeLabel true cs
    else if held then '\\' :: '\\' :: c :: escapeLabel false cs
    else c :: escapeLabel false cs

/-- A label with its value. -/
def labelText (name value : String) : String :=
  name ++ "=\"" ++ String.ofList (escapeLabel false value.toList) ++ "\""

/-- A sample: the name of a series, its labels and its value. -/
def sample (series : String) (labels : List String) (value : Nat) : String :=
  series ++ "\x7b" ++ ",".intercalate labels ++ "\x7d " ++ decimalString value

/-! ## Metrics -/

/-- The name of the counter of requests. -/
def requestsName : String := "http_requests_total"

/-- The name of the latencies. -/
def latencyName : String := "http_request_latency_ms"

/-- The labels of a counter of requests. -/
def Labels.texts (l : Labels) : List String :=
  [labelText "endpoint" l.endpoint, labelText "method" l.method,
    labelText "status" (decimalString l.status)]

/-- The lines of a metric that has samples. -/
def metricLines (described : Bool) (name kind help : String) (samples : List String) :
    List String :=
  if samples.isEmpty then []
  else
    (if described then ["# HELP " ++ name ++ " " ++ help] else []) ++
      ["# TYPE " ++ name ++ " " ++ kind] ++ samples

namespace Recorder

/-- The samples of the counter of requests. -/
def requestSamples (r : Recorder) : List String :=
  r.requests.map fun (l, n) => sample requestsName l.texts n

/-- The samples of the numbers of latencies. -/
def latencySamples (r : Recorder) : List String :=
  r.latencies.map fun (endpoint, n) =>
    sample (latencyName ++ "_count") [labelText "endpoint" endpoint] n

def lines (r : Recorder) : List String :=
  (metricLines r.described latencyName "summary" "HTTP request latency in milliseconds"
      r.latencySamples ++
    metricLines r.described requestsName "counter" "Total number of HTTP requests served"
      r.requestSamples).mergeSort (fun a b => a ≤ b)

end Recorder

end OriginGate.Metrics
