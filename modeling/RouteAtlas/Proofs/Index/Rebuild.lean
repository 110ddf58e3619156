import Mathlib.Algebra.GroupWithZero.Nat
import RouteAtlas.Proofs.Index.Partition

namespace RouteAtlas

def Source.fails (source : Source) (path : Path) : Bool :=
  match source.modified path, source.read path with
  | .ok _, .ok _ => false
  | _, _ => true

namespace FileResult

variable {catalogue : Catalogue} {source : Source} {path : Path}

theorem isFailed_ofSource (catalogue : Catalogue) (source : Source) (path : Path) :
    (ofSource catalogue source path).isFailed = source.fails path := by
  unfold ofSource Source.fails
  cases source.modified path with
  | error fault => rfl
  | ok modified =>
    cases source.read path with
    | error fault => rfl
    | ok content =>
      simp only [ofRead, ofContent]
      split <;> rfl

theorem endpoints?_of_taken? {entry : CacheEntry}
    (taken : (ofSource catalogue source path).taken? = some entry) :
    ∃ content, catalogue.endpoints? path content = some entry.endpoints := by
  unfold ofSource at taken
  split at taken
  · cases taken
  cases answer : source.read path with
  | error fault => simp [answer, ofRead, taken?] at taken
  | ok content =>
    simp only [answer, ofRead, ofContent] at taken
    split at taken
    · cases taken
      exact ⟨content, ‹_›⟩
    · cases taken

theorem exists_framework_of_taken? {frameworks : List Framework} {entry : CacheEntry}
    (taken : (ofSource (.ofList frameworks) source path).taken? = some entry)
    {endpoint : Endpoint} (member : endpoint ∈ entry.endpoints) :
    ∃ framework, endpoint.framework = some framework := by
  obtain ⟨content, found⟩ := endpoints?_of_taken? taken
  obtain ⟨extractor, ascending⟩ := Catalogue.ascending_endpoints? found
  obtain ⟨_, _, declared⟩ := ascending.declared endpoint member
  obtain ⟨framework, named, _⟩ := Option.map_eq_some_iff.mp declared.framework
  exact ⟨framework, named⟩

end FileResult

namespace Tally

theorem sum_map_filterMap_ne_zero (count : Framework → Nat) (frameworks : List Framework) :
    ((frameworks.filterMap fun framework =>
      if count framework = 0 then none else some (framework, count framework)).map Prod.snd).sum =
      (frameworks.map count).sum := by
  induction frameworks with
  | nil => rfl
  | cons framework frameworks ih =>
    by_cases none : count framework = 0 <;> simp [none, ih]

theorem sum_map_countP {endpoints : List Endpoint}
    (known : ∀ endpoint ∈ endpoints, ∃ framework, endpoint.framework = some framework) :
    (Framework.all.map fun framework =>
      endpoints.countP (·.framework == some framework)).sum = endpoints.length := by
  induction endpoints with
  | nil => rfl
  | cons endpoint endpoints ih =>
    have rest := ih fun other member => known other (List.mem_cons_of_mem endpoint member)
    obtain ⟨framework, found⟩ := known endpoint List.mem_cons_self
    simp only [Framework.all, List.map_cons, List.map_nil, List.sum_cons, List.sum_nil] at rest ⊢
    simp only [List.countP_cons, found, List.length_cons]
    -- just one of the seven numbers goes up, the one of this endpoint's framework
    cases framework <;> simp <;> omega

theorem sum_ofEndpoints {endpoints : List Endpoint}
    (known : ∀ endpoint ∈ endpoints, ∃ framework, endpoint.framework = some framework) :
    ((ofEndpoints endpoints).map Prod.snd).sum = endpoints.length := by
  rw [ofEndpoints, sum_map_filterMap_ne_zero]
  exact sum_map_countP known

end Tally

namespace Index

variable {index after : Index} {source : Source} {path other : Path}

theorem Edits.get?_of_not_same (edits : Edits index path after) (differ : ¬ path.same other) :
    after.snapshot.get? other = index.snapshot.get? other := by
  cases edits with
  | same => rfl
  | dropped => exact (Snapshot.get?_erase _ path other).trans (if_neg differ)
  | made taken => exact (Snapshot.get?_put _ _ other).trans (if_neg differ)

theorem entries_reread_of_absent {modified : Stamp} (answer : Except Fault Text)
    (absent : index.snapshot.get? path = none) :
    (index.reread path modified answer).1.snapshot.entries = index.snapshot.entries ++
      (FileResult.ofRead index.catalogue path modified answer).taken?.toList := by
  cases answer with
  | error fault => exact (List.append_nil _).symm
  | ok content =>
    simp only [reread, refresh, FileResult.ofRead, FileResult.ofContent]
    cases index.catalogue.endpoints? path content with
    | none => simp [remove, absent, FileResult.taken?]
    | some endpoints =>
      simp [publish, Snapshot.put, Snapshot.erase_of_get?_eq_none absent, FileResult.taken?]

/-- A changed file without an entry gets the one that a scan would make for it, behind all others. -/
theorem entries_changed_of_absent (accepted : source.accepts path)
    (absent : index.snapshot.get? path = none) :
    (index.changed source path).1.snapshot.entries = index.snapshot.entries ++
      (FileResult.ofSource index.catalogue source path).taken?.toList := by
  simp only [changed, if_pos accepted, revalidate, FileResult.ofSource]
  cases source.modified path with
  | error fault => simp [FileResult.taken?]
  | ok modified =>
    have outdated : ¬ (index.touch path).isCurrent path modified := by
      simp [isCurrent, absent]
    rw [← touch_snapshot index path] at absent
    rw [← touch_snapshot index path, ← touch_catalogue index path]
    simp only [if_neg outdated]
    exact entries_reread_of_absent _ absent

def changedAll (source : Source) (index : Index) (paths : List Path) : Index :=
  paths.foldl (fun index path => (index.changed source path).1) index

theorem entries_changedAll {paths : List Path}
    (accepted : ∀ path ∈ paths, source.accepts path)
    (distinct : paths.Pairwise fun path other => ¬ path.same other)
    (absent : ∀ path ∈ paths, index.snapshot.get? path = none) :
    (index.changedAll source paths).snapshot.entries = index.snapshot.entries ++
      paths.filterMap fun path => (FileResult.ofSource index.catalogue source path).taken? := by
  induction paths generalizing index with
  | nil => exact (List.append_nil _).symm
  | cons path paths ih =>
    have edits := edits_changed index source path
    have held : (index.changed source path).1.catalogue = index.catalogue :=
      edits.kept.catalogue.trans (touch_catalogue index path)
    obtain ⟨differ, rest⟩ := List.pairwise_cons.mp distinct
    have missing : ∀ other ∈ paths, (index.changed source path).1.snapshot.get? other = none := by
      intro other member
      rw [edits.get?_of_not_same (differ other member), touch_snapshot]
      exact absent other (List.mem_cons_of_mem path member)
    -- a file that was reported leaves the others without an entry, so each of them is appended in turn
    have here := entries_changed_of_absent (accepted path List.mem_cons_self)
      (absent path List.mem_cons_self)
    have later := ih (fun other member => accepted other (List.mem_cons_of_mem path member)) rest
      missing
    rw [held] at later
    rw [changedAll, List.foldl_cons, ← changedAll, later, here, List.append_assoc, List.filterMap_cons]
    cases (FileResult.ofSource index.catalogue source path).taken? <;> rfl

theorem fullScan_of_untouched (source : Source) (untouched : index.touched = []) :
    index.fullScan source =
      let results := (source.list index.catalogue.extensions).map
        (FileResult.ofSource index.catalogue source)
      let after := index.beginScan.2.unregister.replaceEntries (results.filterMap (·.taken?))
      (after, after.publishedReport results) := by
  have begun : index.beginScan.2.unregister.touched = [] := untouched
  have shown : ∀ entries, index.beginScan.2.unregister.publishScan source entries =
      index.beginScan.2.unregister.replaceEntries entries := by
    intro entries
    rw [publishScan, begun]
    rfl
  have latest : index.beginScan.1 = index.beginScan.2.unregister.generation := rfl
  simp only [fullScan, finishScan, shown, if_pos latest]
  rfl

end Index

namespace Traffic

variable {frameworks : List Framework} {s : State} {source : Source}

/-- A scan that starts while no other runs, over a source that stays as it is and lists no path twice, ends
with the entries that an empty index gets from reporting the listed files as changed, in their order. -/
theorem fullScan_eq_changed_each (reached : Reaches (.ofList frameworks) (fun _ => True) s)
    (free : s.lock = .free) (idle : s.index.scansInFlight = 0)
    (distinct : (source.list (Catalogue.ofList frameworks).extensions).Pairwise fun path other =>
      ¬ path.same other)
    (accepted : ∀ path ∈ source.list (Catalogue.ofList frameworks).extensions,
      source.accepts path) :
    let listed := source.list (Catalogue.ofList frameworks).extensions
    let after := (s.index.fullScan source).1
    let report := (s.index.fullScan source).2
    after.snapshot.entries =
      ((Index.new (.ofList frameworks)).changedAll source listed).snapshot.entries ∧
    report.listed = listed.length ∧
    report.matched = after.snapshot.entries.length ∧
    report.skipped = listed.countP source.fails ∧
    report.endpointCount = after.endpoints.length ∧
    report.endpointCount = (report.tally.map Prod.snd).sum ∧
    report.superseded = false := by
  intro listed after report
  have scanned := Index.fullScan_of_untouched source (reached.touched_eq_nil free idle)
  rw [reached.catalogue_eq] at scanned
  have absent : ∀ path ∈ listed, (Index.new (.ofList frameworks)).snapshot.get? path = none := by
    intro path _
    rfl
  have rebuilt := Index.entries_changedAll accepted distinct absent
  have entries : after.snapshot.entries = listed.filterMap fun path =>
      (FileResult.ofSource (.ofList frameworks) source path).taken? := by
    simp only [after, scanned, List.filterMap_map]
    rfl
  have reported : report = after.publishedReport
      (listed.map (FileResult.ofSource (.ofList frameworks) source)) := by
    simp only [report, after, scanned]
    rfl
  have known : ∀ endpoint ∈ after.endpoints, ∃ framework, endpoint.framework = some framework := by
    intro endpoint member
    obtain ⟨entry, stored, inside⟩ := List.mem_flatMap.mp member
    rw [entries] at stored
    obtain ⟨path, _, taken⟩ := List.mem_filterMap.mp stored
    exact FileResult.exists_framework_of_taken? taken inside
  rw [reported]
  refine ⟨entries.trans rebuilt.symm, ?_, ?_, ?_, rfl, (Tally.sum_ofEndpoints known).symm, rfl⟩
  · exact List.length_map _
  · simp only [Index.publishedReport, List.filterMap_map, entries]
    rfl
  · simp only [Index.publishedReport, List.countP_map, Function.comp_def,
      FileResult.isFailed_ofSource]

def faultyFiles : Source where
  list _ := [⟨"a.py"⟩, ⟨"b.py"⟩, ⟨"c.py"⟩, ⟨"d.py"⟩, ⟨"e.py"⟩]
  modified path := if path = ⟨"b.py"⟩ then .error ⟨false, "busy"⟩ else .ok 1
  read path :=
    if path = ⟨"c.py"⟩ then .error ⟨true, "gone"⟩
    else if path = ⟨"d.py"⟩ then .ok "pass"
    else .ok "import flask\n@a.route('/a')\n@a.route('/b')"
  accepts _ := true

theorem fullScan_eq_changed_each_of_faultyFiles :
    ∃ s, Reaches (.ofList [.flask]) (fun _ => True) s ∧
      s.index.snapshot.entries.map (·.path) = [⟨"a.py"⟩, ⟨"b.py"⟩] ∧
      (s.index.fullScan faultyFiles).1.snapshot.entries =
        ((Index.new (.ofList [.flask])).changedAll faultyFiles
          (faultyFiles.list (Catalogue.ofList [.flask]).extensions)).snapshot.entries ∧
      (s.index.fullScan faultyFiles).1.snapshot.entries.map (·.path) = [⟨"a.py"⟩, ⟨"e.py"⟩] ∧
      (s.index.fullScan faultyFiles).2.skipped =
        (faultyFiles.list (Catalogue.ofList [.flask]).extensions).countP faultyFiles.fails ∧
      (s.index.fullScan faultyFiles).2 = ⟨5, 2, 2, 4, [(.flask, 4)], false⟩ := by
  have reached : Reaches (.ofList [.flask]) (fun _ => True) _ := .start
  obtain ⟨s, scanned, free, index, _⟩ := reached.fullScan twoFiles.source trivial rfl
  have idle : s.index.scansInFlight = 0 := by
    rw [index]
    decide +kernel
  obtain ⟨entries, _, _, skipped, _⟩ := fullScan_eq_changed_each scanned free idle
    (show (faultyFiles.list _).Pairwise _ by decide +kernel) (fun _ _ => rfl)
  refine ⟨s, scanned, ?_, entries, ?_, skipped, ?_⟩ <;> rw [index] <;> decide +kernel

end Traffic

end RouteAtlas
