import RouteAtlas.Index.Snapshot
import RouteAtlas.Report.Json
import RouteAtlas.Report.Table

namespace RouteAtlas

structure ScanFacts where
  root : Path
  report : ScanReport
  elapsedMilliseconds : Nat
  query : Option Text

namespace Document

def facts (scan : ScanFacts) : Json :=
  let report := scan.report
  let counts := report.tally.map fun (framework, count) => (framework.tag, Json.number count)
  let query := scan.query.toList.map fun query => ("query".toList, Json.text query)
  .object ([
    ("root".toList, .text scan.root.spelling),
    ("files_scanned".toList, .number report.listed),
    ("files_matched".toList, .number report.matched),
    ("files_skipped".toList, .number report.skipped),
    ("endpoint_count".toList, .number report.endpointCount),
    ("frameworks".toList, .object counts),
    ("elapsed_ms".toList, .number scan.elapsedMilliseconds)] ++ query)

def entry (root : Path) (endpoint : Endpoint) : Json :=
  let framework := endpoint.framework.toList.map fun framework =>
    ("framework".toList, Json.text framework.tag)
  .object ([
    ("method".toList, .text endpoint.method.tag),
    ("path".toList, .text endpoint.route),
    ("owner".toList, .text endpoint.owner),
    ("handler".toList, .text endpoint.handler)] ++ framework ++ [
    ("file".toList, .text (displayPath root endpoint.location.file)),
    ("line".toList, .number (endpoint.location.line + 1))])

def render (scan : ScanFacts) (endpoints : List Endpoint) : Text :=
  Json.render 0 (.object [
    ("metadata".toList, facts scan),
    ("endpoints".toList, .array (endpoints.map (entry scan.root)))]) ++ ['\n']

end Document

end RouteAtlas
