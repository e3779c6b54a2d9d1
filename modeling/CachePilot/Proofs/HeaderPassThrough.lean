/-
Module: CachePilot.Proofs.HeaderPassThrough
Layer: Proofs
Purpose: Which header fields reach the upstream. The fields that only the first `Connection` field is asked about are
  put into a dictionary, so a repeated name is sent once, and what a later `Connection` field nominates is sent too;
  the fields are passed through as they are exactly when neither can happen.
Trusted boundary: none
Main exports: nominated, passedThrough, heldHeaders, forwarded_headers_exact_iff, repeated_header_collapses,
  nominated_header_leaks
-/
import CachePilot.Relay.Headers

namespace CachePilot

variable (headers : List (String × String))

/-- The names that any `Connection` field nominates. -/
def nominated : List String :=
  (headers.filter fun header => header.1.toLower = "connection").flatMap fun header => connectionTokens header.2

/-- The incoming fields, in order and with every occurrence, without the hop-by-hop names, the names that any
    `Connection` field nominates, the host and the correlation headers. -/
def passedThrough : List (String × String) :=
  headers.filter fun header =>
    header.1.toLower ∉ hopByHopHeaders ∧ header.1.toLower ∉ nominated headers ∧ header.1.toLower ≠ "host" ∧
      header.1.toLower ∉ correlationHeaderNames

/-- The fields that the filters of the source let through. -/
def heldHeaders : List (String × String) :=
  headers.filter fun header =>
    header.1.toLower ∉ hopByHopHeaders ++ connectionTokens ((getHeader headers "connection").getD "") ∧
      header.1 ≠ "host" ∧ header.1.toLower ∉ correlationHeaderNames

/-- What is sent is a dictionary of these fields. -/
theorem forwardedHeaders_eq : forwardedHeaders headers = Dict.ofEntries (heldHeaders headers) := by
  rw [forwardedHeaders, stripCorrelationHeaders, Dict.erase_eq_filterKeys, Dict.filterKeys_filterKeys, stripHopByHop,
    Dict.filterKeys_ofEntries, List.filter_filter, heldHeaders]
  refine congrArg Dict.ofEntries (List.filter_congr fun header _ => ?_)
  simp only [← Bool.decide_and, decide_eq_decide]
  tauto

/-- The first `Connection` field is one of them. -/
theorem connectionTokens_subset (name : String)
    (first : name ∈ connectionTokens ((getHeader headers "connection").getD "")) : name ∈ nominated headers := by
  rw [getHeader] at first
  cases found : headers.find? fun header => header.1.toLower = "connection" with
  | none =>
      have nothing : connectionTokens "" = [] := by decide +kernel
      rw [found, Option.map_none, Option.getD_none, nothing] at first
      cases first
  | some header =>
      rw [found] at first
      have named := List.find?_some found
      exact List.mem_flatMap.mpr
        ⟨header, List.mem_filter.mpr ⟨List.mem_of_find?_eq_some found, named⟩, first⟩

/-- Passing fields through leaves out those that another `Connection` field nominates. -/
theorem passedThrough_eq :
    passedThrough headers =
      (heldHeaders headers).filter fun header =>
        decide (header.1.toLower ∉ nominated headers ∧ header.1.toLower ≠ "host") := by
  rw [passedThrough, heldHeaders, List.filter_filter]
  refine List.filter_congr fun header _ => ?_
  have first := connectionTokens_subset headers header.1.toLower
  have host : header.1 = "host" → header.1.toLower = "host" := by
    intro same
    rw [same]
    decide +kernel
  simp only [← Bool.decide_and, decide_eq_decide, List.mem_append, not_or]
  tauto

/-- For every list of header fields: a forward sends exactly the fields that are to be passed through, when none of
    the fields that it holds has the name of another one, none is nominated by a later `Connection` field, and none
    spells the host in other letters. -/
theorem forwarded_headers_exact_iff :
    (forwardedHeaders headers).entries = passedThrough headers ↔
      ((heldHeaders headers).map Prod.fst).Nodup ∧
        ∀ header ∈ heldHeaders headers, header.1.toLower ∉ nominated headers ∧ header.1.toLower ≠ "host" := by
  have sent := Dict.entries_ofEntries_eq_filter_iff (heldHeaders headers) fun name =>
    decide (name.toLower ∉ nominated headers ∧ name.toLower ≠ "host")
  simp only [decide_eq_true_eq] at sent
  rw [forwardedHeaders_eq, passedThrough_eq]
  exact sent

/-- Of two fields of one name the last value is sent. -/
theorem repeated_header_collapses :
    (forwardedHeaders [("accept", "text/html"), ("accept", "application/json")]).entries =
        [("accept", "application/json")] ∧
      (forwardedHeaders [("accept", "text/html"), ("accept", "application/json")]).entries ≠
        passedThrough [("accept", "text/html"), ("accept", "application/json")] := by
  decide +kernel

/-- What the second `Connection` field nominates is sent. -/
theorem nominated_header_leaks :
    (forwardedHeaders [("connection", "close"), ("connection", "x-trace"), ("x-trace", "1")]).entries ≠
      passedThrough [("connection", "close"), ("connection", "x-trace"), ("x-trace", "1")] := by
  decide +kernel

end CachePilot
