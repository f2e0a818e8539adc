import EventCollector.MonitorCore
import Mathlib.Algebra.Group.Nat.Defs

/-!
The response of the metrics endpoint as its readers take it apart: an HTTP client at
the blank line, a parser of the text format line by line, and
`tests/test_integration.py` by the start of each line.
-/

namespace EventCollector

open Ascii Split

/-! The readers. -/

def crlf : Bytes := ascii "\r\n"

def blankLine : Bytes := ascii "\r\n\r\n"

def contentLength (head : Bytes) : Option Nat :=
  (split crlf head).findSome? fun line =>
    if ascii "Content-Length: " <+: line then
      readDecimal (line.drop (ascii "Content-Length: ").length)
    else none

def isComment (line : Bytes) : Bool := ascii "#" <+: line

def readSample (line : Bytes) : Option (Bytes × Nat) :=
  (splitLast 32 line).bind fun (name, value) =>
    (readDecimal value).map fun number => (name, number)

/-- Comments and empty lines are skipped; any other line must be a sample. -/
def readSamples (body : Bytes) : Option (List (Bytes × Nat)) :=
  ((split (ascii "\n") body).filter fun line => !line.isEmpty && !isComment line).mapM readSample

/-- `line.startswith(name) and not line.startswith("#")` over `body.splitlines()`. -/
def selectLines (name body : Bytes) : List Bytes :=
  (splitlines body).filter fun line => name <+: line && !isComment line

/-! The lines of the text. -/

namespace Metric

def helpLine (metric : Metric) : Bytes :=
  ascii "# HELP " ++ metric.name ++ ascii " " ++ metric.help

def typeLine (metric : Metric) : Bytes :=
  ascii "# TYPE " ++ metric.name ++ ascii " " ++ ascii "counter"

def sampleLine (metric : Metric) (value : UInt64) : Bytes :=
  metric.name ++ ascii " " ++ decimal value.toNat

def lines (metric : Metric) (value : UInt64) : List Bytes :=
  [metric.helpLine, metric.typeLine, metric.sampleLine value]

/-- Small letters and underscores. -/
theorem name_letters (metric : Metric) :
    ∀ letter ∈ metric.name, 95 ≤ letter.toNat ∧ letter.toNat ≤ 122 := by
  have names : ∀ metric ∈ all, metric.name.all
      (fun letter => decide (95 ≤ letter.toNat ∧ letter.toNat ≤ 122)) = true := by
    decide
  intro letter member
  have checked := List.all_eq_true.mp (names metric metric.mem_all) letter member
  exact of_decide_eq_true checked

theorem name_starts (metric : Metric) : ∃ first rest, metric.name = first :: rest := by
  cases metric <;> exact ⟨_, _, rfl⟩

theorem name_printable (metric : Metric) : Printable metric.name := by
  intro letter member
  have bounds := metric.name_letters letter member
  omega

theorem name_unspaced (metric : Metric) : 32 ∉ metric.name := by
  intro member
  have bounds := metric.name_letters 32 member
  simp at bounds

theorem help_printable (metric : Metric) : Printable metric.help := by
  have helps : ∀ metric ∈ all, Printable metric.help := by decide
  exact helps metric metric.mem_all

theorem lines_printable (metric : Metric) (value : UInt64) :
    ∀ line ∈ metric.lines value, Printable line := by
  have name := metric.name_printable
  have space : Printable (ascii " ") := by decide
  simp only [lines, List.forall_mem_cons]
  refine ⟨?_, ?_, ?_, by simp⟩
  · have mark : Printable (ascii "# HELP ") := by decide
    exact ((mark.append name).append space).append metric.help_printable
  · have mark : Printable (ascii "# TYPE ") := by decide
    exact ((mark.append name).append space).append (by decide)
  · exact (name.append space).append (decimal_printable _)

theorem helpLine_comment (metric : Metric) : isComment metric.helpLine = true := by
  simp only [isComment, helpLine, decide_eq_true_eq, List.append_assoc]
  exact List.IsPrefix.trans (by decide) (List.prefix_append _ _)

theorem typeLine_comment (metric : Metric) : isComment metric.typeLine = true := by
  simp only [isComment, typeLine, decide_eq_true_eq, List.append_assoc]
  exact List.IsPrefix.trans (by decide) (List.prefix_append _ _)

theorem sampleLine_plain (metric : Metric) (value : UInt64) :
    (metric.sampleLine value).isEmpty = false ∧ isComment (metric.sampleLine value) = false := by
  obtain ⟨first, rest, starts⟩ := metric.name_starts
  have shape : metric.sampleLine value = first :: (rest ++ (ascii " " ++ decimal value.toNat)) := by
    rw [sampleLine, starts, List.append_assoc, List.cons_append]
  have other : (35 : UInt8) ≠ first := by
    rintro rfl
    have bounds := metric.name_letters 35 (by simp [starts])
    simp at bounds
  have mark : ascii "#" = [35] := rfl
  rw [isComment, shape, mark]
  simp [other]

end Metric

theorem formatMetric_lines (metric : Metric) (value : UInt64) :
    formatMetric metric.name metric.help (ascii "counter") value =
      terminate [10] (metric.lines value) := by
  have mark : ascii "\n" = [10] := rfl
  simp only [formatMetric, terminate, Metric.lines, Metric.helpLine, Metric.typeLine,
    Metric.sampleLine, mark, List.flatMap_cons, List.flatMap_nil, List.append_assoc,
    List.append_nil]

theorem buildPrometheusText_lines (values : Metric → UInt64) : buildPrometheusText values =
    terminate [10] (Metric.all.flatMap fun metric => metric.lines (values metric)) := by
  simp only [buildPrometheusText, formatMetric_lines, terminate, List.flatMap_assoc]

theorem text_printable (values : Metric → UInt64) :
    ∀ line ∈ Metric.all.flatMap fun metric => metric.lines (values metric),
      Printable line := by
  intro line member
  obtain ⟨metric, -, own⟩ := List.mem_flatMap.mp member
  exact metric.lines_printable (values metric) line own

/-! What the parser of the text format reads. -/

theorem readSample_line (metric : Metric) (value : UInt64) :
    readSample (metric.sampleLine value) = some (metric.name, value.toNat) := by
  have space : ascii " " = [32] := rfl
  have unspaced : 32 ∉ decimal value.toNat := by
    intro member
    have digit := decimal_digits _ _ member
    simp [IsDigit] at digit
  have cut := splitLast_append unspaced metric.name
  rw [readSample, Metric.sampleLine, space, List.append_assoc, List.singleton_append, cut]
  simp only [Option.bind_some, readDecimal_decimal, Option.map_some]

theorem filter_lines (metric : Metric) (value : UInt64) :
    ((metric.lines value).filter fun line => !line.isEmpty && !isComment line) =
      [metric.sampleLine value] := by
  obtain ⟨filled, plain⟩ := metric.sampleLine_plain value
  simp [Metric.lines, metric.helpLine_comment, metric.typeLine_comment, filled, plain]

theorem mapM_readSample (values : Metric → UInt64) : ∀ kinds : List Metric,
    (kinds.flatMap fun metric => [metric.sampleLine (values metric)]).mapM readSample =
      some (kinds.map fun metric => (metric.name, (values metric).toNat)) := by
  intro kinds
  induction kinds with
  | nil => rfl
  | cons metric kinds ih =>
      rw [List.flatMap_cons, List.singleton_append, List.mapM_cons, readSample_line, ih]
      rfl

theorem readSamples_text (values : Metric → UInt64) :
    readSamples (buildPrometheusText values) =
      some (Metric.all.map fun metric => (metric.name, (values metric).toNat)) := by
  have mark : ascii "\n" = [10] := rfl
  have clean : ∀ line ∈ Metric.all.flatMap fun metric => metric.lines (values metric),
      Clean [10] line := fun line member =>
    clean_of_notMem ((text_printable values line member).notMem (by decide)) []
  have pieces := (split_terminate (by simp) _).mpr clean
  rw [readSamples, buildPrometheusText_lines, mark, pieces, List.filter_append,
    List.filter_flatMap]
  simp only [filter_lines, List.filter_cons, List.isEmpty_nil, List.filter_nil, Bool.not_true,
    Bool.false_and, Bool.false_eq_true, if_false, List.append_nil]
  exact mapM_readSample values Metric.all

/-! What the start of a line selects. -/

theorem prefix_of_unspaced {text field rest : Bytes} (unspaced : 32 ∉ text)
    (starts : text <+: field ++ 32 :: rest) : text <+: field := by
  rcases List.prefix_or_prefix_of_prefix starts (List.prefix_append field _) with inside | longer
  · exact inside
  · obtain ⟨more, rfl⟩ := longer
    rw [List.prefix_append_right_inj] at starts
    cases more with
    | nil => rw [List.append_nil]
    | cons letter more =>
        obtain ⟨rfl, -⟩ := List.cons_prefix_cons.mp starts
        simp at unspaced

theorem Metric.name_prefix {first second : Metric} (starts : first.name <+: second.name) :
    first = second := by
  have pairs : ∀ first ∈ Metric.all, ∀ second ∈ Metric.all, first.name <+: second.name →
      first = second := by
    decide
  exact pairs first first.mem_all second second.mem_all starts

theorem select_line (metric other : Metric) (value : UInt64) :
    ((other.lines value).filter fun line => metric.name <+: line && !isComment line) =
      if other = metric then [other.sampleLine value] else [] := by
  have space : ascii " " = [32] := rfl
  have starts : metric.name <+: other.sampleLine value ↔ other = metric := by
    rw [Metric.sampleLine, space, List.append_assoc, List.singleton_append]
    constructor
    · intro whole
      exact (Metric.name_prefix (prefix_of_unspaced metric.name_unspaced whole)).symm
    · rintro rfl
      exact List.prefix_append _ _
  obtain ⟨-, plain⟩ := other.sampleLine_plain value
  by_cases same : other = metric
  · subst same
    simp [Metric.lines, other.helpLine_comment, other.typeLine_comment, plain, starts]
  · simp [Metric.lines, other.helpLine_comment, other.typeLine_comment, plain, starts, same]

theorem selectLines_text (values : Metric → UInt64) (metric : Metric) :
    selectLines metric.name (buildPrometheusText values) =
      [metric.sampleLine (values metric)] := by
  rw [selectLines, buildPrometheusText_lines, splitlines_terminate (text_printable values),
    List.filter_flatMap]
  simp only [select_line]
  cases metric <;> rfl

/-! The head of the response. -/

def headLines (length : Nat) : List Bytes :=
  [ascii "HTTP/1.1 200 OK", ascii "Content-Type: text/plain; version=0.0.4",
    ascii "Content-Length: " ++ decimal length]

def responseHead (length : Nat) : Bytes :=
  terminate crlf (headLines length) ++ ascii "Connection: close"

theorem metricsResponse_head (values : Metric → UInt64) : metricsResponse values =
    responseHead (buildPrometheusText values).length ++ blankLine ++
      buildPrometheusText values := by
  have status : ascii "HTTP/1.1 200 OK\r\n" = ascii "HTTP/1.1 200 OK" ++ crlf := rfl
  have kind : ascii "Content-Type: text/plain; version=0.0.4\r\n" =
      ascii "Content-Type: text/plain; version=0.0.4" ++ crlf := rfl
  have close : ascii "Connection: close\r\n\r\n" = ascii "Connection: close" ++ blankLine := rfl
  have lineEnd : ascii "\r\n" = crlf := rfl
  simp only [metricsResponse, responseHead, headLines, terminate, List.flatMap_cons,
    List.flatMap_nil, status, kind, close, lineEnd, List.append_assoc, List.append_nil]

theorem head_clean (length : Nat) : Clean blankLine (responseHead length) := by
  have shape : responseHead length = (ascii "HTTP/1.1 200 OK" ++ crlf ++
      ascii "Content-Type: text/plain; version=0.0.4" ++ crlf ++ ascii "Content-Length: ") ++
      (decimal length ++ (crlf ++ ascii "Connection: close")) := by
    simp only [responseHead, headLines, terminate, List.flatMap_cons, List.flatMap_nil,
      List.append_assoc, List.append_nil]
  have number : Apart blankLine (decimal length) :=
    apart_of_notMem ((decimal_printable length).notMem (by decide)) [10, 13, 10]
  have last : Clean blankLine (crlf ++ ascii "Connection: close") := by decide
  rw [shape]
  exact Apart.clean_append (by decide) (number.clean_append last)

theorem headLines_clean (length : Nat) : ∀ line ∈ headLines length, Clean crlf line := by
  have printable : ∀ line ∈ headLines length, Printable line := by
    simp only [headLines, List.forall_mem_cons]
    refine ⟨by decide, by decide, ?_, by simp⟩
    exact Printable.append (by decide) (decimal_printable length)
  intro line member
  exact clean_of_notMem ((printable line member).notMem (by decide)) [10]

theorem contentLength_head (length : Nat) : contentLength (responseHead length) = some length := by
  have pieces : split crlf (responseHead length) = headLines length ++ [ascii "Connection: close"] :=
    split_terminate_append (by decide) (headLines_clean length) (by decide)
  have status : ¬ ascii "Content-Length: " <+: ascii "HTTP/1.1 200 OK" := by decide
  have kind : ¬ ascii "Content-Length: " <+: ascii "Content-Type: text/plain; version=0.0.4" := by
    decide
  have found : ascii "Content-Length: " <+: ascii "Content-Length: " ++ decimal length :=
    List.prefix_append _ _
  rw [contentLength, pieces, headLines, List.cons_append, List.findSome?_cons, if_neg status,
    List.cons_append, List.findSome?_cons, if_neg kind, List.cons_append, List.findSome?_cons,
    if_pos found, List.drop_left, readDecimal_decimal]

theorem metricsResponse_split (values : Metric → UInt64) :
    splitFirst blankLine (metricsResponse values) =
      some (responseHead (buildPrometheusText values).length, buildPrometheusText values) := by
  rw [metricsResponse_head]
  exact splitFirst_clean (by decide) (head_clean _) _

/-- The metric of every counter with the counter's value. -/
def exposition (metrics : Metrics) : List (Bytes × Nat) :=
  [(ascii "event_received_total", metrics.totalReceived),
    (ascii "event_parsed_total", metrics.totalParsed),
    (ascii "event_valid_total", metrics.totalValid),
    (ascii "event_invalid_total", metrics.totalInvalid),
    (ascii "event_parse_fail_total", metrics.totalParseFail),
    (ascii "event_rate_limited_total", metrics.totalRateLimited),
    (ascii "event_kafka_ok_total", metrics.totalKafkaOk),
    (ascii "event_kafka_fail_total", metrics.totalKafkaFail),
    (ascii "event_stored_total", metrics.totalStored),
    (ascii "event_store_fail_total", metrics.totalStoreFail),
    (ascii "event_store_dead_total", metrics.totalStoreDead),
    (ascii "event_queue_drop_total", metrics.totalQueueDrop)]

theorem exposition_eq (metrics : Metrics) : exposition metrics =
    Metric.all.map fun metric => (metric.name, metric.load metrics) :=
  rfl

theorem exposition_names (metrics : Metrics) : ((exposition metrics).map Prod.fst).Nodup := by
  have distinct : Metric.all.Nodup := by decide
  rw [exposition_eq, List.map_map]
  refine List.pairwise_map.mpr (distinct.imp ?_)
  intro first second different same
  have equal : first.name = second.name := same
  exact different (Metric.name_prefix (equal ▸ List.prefix_rfl))

/-- The response splits into a head that announces the length of the body, and a body
from which either reader gets every counter's own value, once and under its own name. -/
theorem metricsResponse_decodes (metrics : Metrics)
    (bounded : ∀ metric : Metric, metric.load metrics < 2 ^ 64) :
    (exposition metrics).length = 12 ∧ ((exposition metrics).map Prod.fst).Nodup ∧
    ∃ head body, splitFirst blankLine (metricsResponse (Metric.values metrics)) =
        some (head, body) ∧
      contentLength head = some body.length ∧
      readSamples body = some (exposition metrics) ∧
      ∀ name value, (name, value) ∈ exposition metrics →
        ∃ line, selectLines name body = [line] ∧ readSample line = some (name, value) := by
  have unwrapped (metric : Metric) : (Metric.values metrics metric).toNat = metric.load metrics :=
    Nat.mod_eq_of_lt (bounded metric)
  refine ⟨rfl, exposition_names metrics, _, _, metricsResponse_split _, contentLength_head _, ?_, ?_⟩
  · rw [readSamples_text, exposition_eq]
    simp only [unwrapped]
  · intro name value member
    rw [exposition_eq, List.mem_map] at member
    obtain ⟨metric, -, same⟩ := member
    obtain ⟨rfl, rfl⟩ := Prod.mk.inj same
    refine ⟨metric.sampleLine (Metric.values metrics metric), selectLines_text _ metric, ?_⟩
    rw [readSample_line, unwrapped]

theorem metricsResponse_decodes_largest : ∃ head body,
    splitFirst blankLine (metricsResponse (Metric.values
      { totalReceived := 18446744073709551615, totalKafkaOk := 7, totalKafkaFail := 90 })) =
        some (head, body) ∧
      contentLength head = some body.length ∧
      ∃ line, selectLines (ascii "event_kafka_ok_total") body = [line] ∧
        readSample line = some (ascii "event_kafka_ok_total", 7) := by
  obtain ⟨-, -, head, body, cut, announced, -, selected⟩ := metricsResponse_decodes
    { totalReceived := 18446744073709551615, totalKafkaOk := 7, totalKafkaFail := 90 }
    (by intro metric; cases metric <;> decide)
  exact ⟨head, body, cut, announced, selected _ _ (by decide)⟩

end EventCollector
