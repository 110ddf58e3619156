import RouteAtlas.Catalogue
import RouteAtlas.Proofs.Echo.Blocks
import RouteAtlas.Proofs.Numbered.Annotated
import RouteAtlas.Proofs.Numbered.Decorated

namespace RouteAtlas.Numbered

namespace Echo

open RouteAtlas.Echo (State Groups structPattern routePattern groupPattern readGroups routeEndpoint?)

def advance (groups : Groups) (line : Text) : Checked Groups := do
  let (_, depth) ← descend groups.depth line
  return ⟨groups.anonymous.dropWhile fun group => depth < group.depth,
    groups.named.filter fun entry => entry.2.depth ≤ depth, depth⟩

def reader (file : Path) : Reader State where
  code state line number :=
    let owner := (structPattern.partAtStart? 1 line).getD state.owner
    let routes := routePattern.findAll line
    let chained := routes.any fun route => (route.part? 1).isNone
    let (groups, inline) := readGroups chained state.groups (groupPattern.findAll line)
    let found := routes.filterMap (routeEndpoint? file number owner groups inline)
    return ⟨groups, owner, state.endpoints ++ found⟩
  braces state line := do
    let groups ← advance state.groups line
    return { state with groups }

def extract (file : Path) (content : Text) : Checked (List Endpoint) := do
  let lines := Text.lines content
  let state ← lines.zipIdx.foldlM (reader file).readLine .initial
  return state.endpoints

theorem depth_readGroups (chained : Bool) (groups : Groups) (found : List Found) :
    (readGroups chained groups found).1.depth = groups.depth := by
  rw [RouteAtlas.Echo.readGroups_fst, RouteAtlas.Echo.depth_readCalls]

theorem advance_eq {groups : Groups} {line : Text} (few : groups.depth.natAbs + braceCount line < 2 ^ 31) :
    advance groups line = .ok (groups.advance line) := by
  rw [advance, descend_eq few]
  rfl

theorem follows (file : Path) (lines : List Text) :
    (reader file).Follows (RouteAtlas.Echo.reader file) lines fun state => state.groups.depth where
  code _ _ _ := rfl
  braces state line few := by
    dsimp only [reader]
    rw [advance_eq few]
    rfl
  depth_code _ _ := depth_readGroups _ _ _
  depth_braces _ _ := rfl

theorem extract_eq (file : Path) {content : Text} (few : braceCount content < 2 ^ 31) :
    extract file content = .ok (RouteAtlas.Echo.extract file content) := by
  rw [extract, (follows file (Text.lines content)).foldlM_eq rfl few,
    ← RouteAtlas.Echo.readLine_eq_reader]
  rfl

end Echo

def extract (framework : Framework) (file : Path) (content : Text) : Checked (List Endpoint) :=
  match framework with
  | .spring => Spring.extract file content
  | .jaxRs => JaxRs.extract file content
  | .gin => return []
  | .echo => Echo.extract file content
  | .fastApi => FastApi.extract file content
  | .flask | .flaskRestful => Flask.extract file content

theorem extract_eq (framework : Framework) (file : Path) {content : Text}
    (few : braceCount content < 2 ^ 31) :
    extract framework file content = .ok (framework.extractorOf.extract file content) := by
  cases framework with
  | spring => exact Spring.extract_eq file few
  | jaxRs => exact JaxRs.extract_eq file few
  | gin => rfl
  | echo => exact Echo.extract_eq file few
  | fastApi => exact FastApi.extract_eq file content
  | flask | flaskRestful => exact Flask.extract_eq file content

/-- By line numbers and byte columns no extractor ever slips, and each finds the endpoints that it finds in
the text. In any lines, the scans for a class and for a function move on with each step and come to an end,
and so does the scan of a line for its annotations. Each annotation ends on a line that is there, at most
nineteen lines below its first one; its rest is the end of that line; and only the last annotation of a line
ends further down. -/
theorem extract_never_slips :
    (∀ framework file content, braceCount content < 2 ^ 31 →
      extract framework file content = .ok (framework.extractorOf.extract file content)) ∧
    ∀ lines : List Text,
      (Advances (classStep lines) ∧ ∀ number,
        scan lines.length (classStep lines) number false = .ok (leadsToClass 0 (lines.drop number))) ∧
      (Advances (handlerStep lines) ∧ ∀ number, scan lines.length (handlerStep lines) number [] =
        .ok (Indented.handlerBelow 0 (lines.drop number))) ∧
      ∀ place ∈ Place.all lines,
        let found := (annotationsOn place.line place.below).map (located place.number)
        Advances (annotationStep lines place.number place.line) ∧
          annotationsAt lines place.number = .ok found ∧
          (∀ annotation ∈ found, annotation.EndsBelow lines place.number) ∧
          ∀ annotation ∈ found.dropLast, annotation.endLine = place.number := by
  refine ⟨fun framework file content few => extract_eq framework file few, fun lines =>
    ⟨⟨advances_classStep lines, scan_classStep lines⟩,
      ⟨advances_handlerStep lines, scan_handlerStep lines⟩, fun place member => ?_⟩⟩
  refine ⟨advances_annotationStep lines place.number place.line, annotationsAt_eq member, ?_, ?_⟩
  · intro annotation written
    obtain ⟨site, on, rfl⟩ := List.mem_map.mp written
    exact endsBelow_located member on
  · intro annotation earlier
    rw [← List.map_dropLast] at earlier
    obtain ⟨site, on, rfl⟩ := List.mem_map.mp earlier
    exact congrArg (place.number + ·) (span_of_mem_dropLast on)

def brokenSource : Text := Text.join ['\n'] [
  "@RestController(\"ü\") @RequestMapping(\"/ß\"", ") class A \x7b", "@GetMapping(\"日\" public é() \x7b",
  "\x7d \x7d @"]

theorem extract_never_slips_of_brokenSource : braceCount brokenSource < 2 ^ 31 ∧
    extract .spring ⟨"A.java"⟩ brokenSource =
      .ok [⟨"/ß", .get, ⟨⟨"A.java"⟩, 2⟩, "A", "é", some .spring⟩] ∧
    annotationsAt (Text.lines brokenSource) 0 = .ok [
      ⟨"RestController", "\"ü\"", 0, " @RequestMapping(\"/ß\""⟩,
      ⟨"RequestMapping", "\"/ß\"\n", 1, " class A \x7b"⟩] := by
  obtain ⟨finds, scans⟩ := extract_never_slips
  have few : braceCount brokenSource < 2 ^ 31 := by decide +kernel
  have split : Text.lines brokenSource = "@RestController(\"ü\") @RequestMapping(\"/ß\"".toList ::
      (Text.lines brokenSource).tail := by decide +kernel
  refine ⟨few, ?_, ?_⟩
  · rw [finds .spring ⟨"A.java"⟩ brokenSource few]
    exact congrArg Except.ok (by decide +kernel)
  · have found := ((scans _).2.2 ⟨[], _, _⟩ (Place.mem_all_iff.mpr split)).2.1
    exact found.trans (congrArg Except.ok (by decide +kernel))

end RouteAtlas.Numbered
