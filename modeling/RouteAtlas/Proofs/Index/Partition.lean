import RouteAtlas.Proofs.Catalogue.WellFormed
import RouteAtlas.Proofs.Index.Traffic

namespace RouteAtlas

def Source.Unrepeated (source : Source) : Prop :=
  ∀ extensions, (source.list extensions).Pairwise fun path other => ¬ path.same other

theorem MemoryFiles.unrepeated_source {memory : MemoryFiles}
    (distinct : (memory.files.map MemoryFile.path).Pairwise fun path other => ¬ path.same other) :
    memory.source.Unrepeated :=
  fun _ => distinct.filter _

def CacheEntry.Own (entry : CacheEntry) : Prop :=
  ∀ endpoint ∈ entry.endpoints, endpoint.location.file = entry.path

/-- Whatever the catalogue finds in a file, the entry made of it is a good one. -/
def Catalogue.Makes (catalogue : Catalogue) (good : CacheEntry → Prop) : Prop :=
  ∀ {path modified content endpoints}, catalogue.endpoints? path content = some endpoints →
    good ⟨path, modified, endpoints⟩

theorem Catalogue.makes_own (frameworks : List Framework) :
    (ofList frameworks).Makes CacheEntry.Own := by
  intro path modified content endpoints taken endpoint member
  obtain ⟨extractor, ascending⟩ := Catalogue.ascending_endpoints? taken
  obtain ⟨line, _, declared⟩ := ascending.declared endpoint member
  rw [declared.location]

namespace Snapshot

def Distinct (snapshot : Snapshot) : Prop :=
  snapshot.entries.Pairwise fun entry other => ¬ entry.path.same other.path

/-- Good entries of different files. -/
structure Parted (good : CacheEntry → Prop) (snapshot : Snapshot) : Prop where
  distinct : snapshot.Distinct
  each : ∀ entry ∈ snapshot.entries, good entry

variable {good : CacheEntry → Prop} {snapshot : Snapshot}

theorem Distinct.put (distinct : snapshot.Distinct) (entry : CacheEntry) :
    (snapshot.put entry).Distinct := by
  rw [Distinct, Snapshot.put, List.pairwise_append]
  refine ⟨distinct.filter _, by simp, ?_⟩
  intro other member last single
  rw [List.mem_singleton.mp single]
  simpa using (List.mem_filter.mp member).2

theorem Parted.erase (parted : snapshot.Parted good) (path : Path) :
    (snapshot.erase path).Parted good := by
  constructor
  · exact parted.distinct.filter _
  · intro entry member
    exact parted.each entry (mem_of_mem_erase member)

theorem Parted.put (parted : snapshot.Parted good) {entry : CacheEntry} (new : good entry) :
    (snapshot.put entry).Parted good := by
  constructor
  · exact parted.distinct.put entry
  · intro other member
    rcases mem_put member with old | rfl
    · exact parted.each other old
    · exact new

/-- Dropping the entry of a file drops the endpoints that are declared in it. -/
theorem Parted.endpoints_erase (parted : snapshot.Parted CacheEntry.Own) (path : Path) :
    (snapshot.erase path).endpoints =
      snapshot.endpoints.filter fun endpoint => !endpoint.location.file.same path := by
  have own := parted.each
  unfold Snapshot.endpoints Snapshot.erase
  generalize snapshot.entries = entries at own
  induction entries with
  | nil => rfl
  | cons entry entries ih =>
    have rest := ih fun other member => own other (List.mem_cons_of_mem entry member)
    have here : ∀ endpoint ∈ entry.endpoints,
        endpoint.location.file.same path = entry.path.same path := by
      intro endpoint member
      rw [own entry List.mem_cons_self endpoint member]
    rw [List.flatMap_cons, List.filter_append, ← rest, List.filter_cons]
    -- the endpoints of an entry go or stay together, since all of them are of its file
    by_cases dropped : entry.path.same path
    · have none : entry.endpoints.filter (fun endpoint => !endpoint.location.file.same path) = [] := by
        rw [List.filter_eq_nil_iff]
        intro endpoint member
        simp [here endpoint member, dropped]
      simp [dropped, none]
    · have all : entry.endpoints.filter (fun endpoint => !endpoint.location.file.same path) =
          entry.endpoints := by
        rw [List.filter_eq_self]
        intro endpoint member
        simp [here endpoint member, dropped]
      simp [dropped, all]

theorem endpoints_put (snapshot : Snapshot) (entry : CacheEntry) :
    (snapshot.put entry).endpoints = (snapshot.erase entry.path).endpoints ++ entry.endpoints := by
  simp [put, endpoints]

theorem erase_of_get?_eq_none {path : Path} (absent : snapshot.get? path = none) :
    snapshot.erase path = snapshot := by
  have others := List.find?_eq_none.mp absent
  have kept : snapshot.entries.filter (fun entry => !entry.path.same path) = snapshot.entries := by
    rw [List.filter_eq_self]
    intro entry member
    simpa using others entry member
  rw [erase, kept]

end Snapshot

namespace Index

variable {good : CacheEntry → Prop} {index after : Index} {path : Path}

theorem Edits.parted (edits : Edits index path after) (makes : index.catalogue.Makes good)
    (parted : index.snapshot.Parted good) : after.snapshot.Parted good := by
  cases edits with
  | same => exact parted
  | dropped => exact parted.erase path
  | made taken => exact parted.put (makes taken)

theorem Edits.parted_of_touch (edits : Edits (index.touch path) path after)
    (makes : index.catalogue.Makes good) (parted : index.snapshot.Parted good) :
    after.snapshot.Parted good := by
  rw [← touch_catalogue index path] at makes
  rw [← touch_snapshot index path] at parted
  exact edits.parted makes parted

theorem snapshot_remove (index : Index) (path : Path) :
    (index.remove path).1.snapshot = index.snapshot.erase path := by
  unfold remove
  split
  · rfl
  · rename_i absent
    exact (Snapshot.erase_of_get?_eq_none absent).symm

theorem snapshot_deleted (index : Index) (path : Path) :
    (index.deleted path).1.snapshot = index.snapshot.erase path := by
  rw [deleted, snapshot_remove, touch_snapshot]

theorem remove_ne_updated (index : Index) (path : Path) : (index.remove path).2 ≠ .updated := by
  unfold remove
  split <;> simp

theorem reread_of_updated {modified : Stamp} {answer : Except Fault Text}
    (updated : (index.reread path modified answer).2 = .ok .updated) :
    ∃ content endpoints, answer = .ok content ∧
      index.catalogue.endpoints? path content = some endpoints ∧
      (index.reread path modified answer).1.snapshot =
        index.snapshot.put ⟨path, modified, endpoints⟩ := by
  cases answer with
  | error fault => cases updated
  | ok content =>
    simp only [reread, refresh] at updated ⊢
    cases taken : index.catalogue.endpoints? path content with
    | some endpoints => exact ⟨content, endpoints, rfl, taken, rfl⟩
    | none =>
      simp only [taken, Except.ok.injEq] at updated
      exact absurd updated (remove_ne_updated index path)

theorem revalidate_of_updated {source : Source}
    (updated : (index.revalidate source path).2 = .ok .updated) :
    ∃ modified content endpoints, source.modified path = .ok modified ∧
      source.read path = .ok content ∧ index.catalogue.endpoints? path content = some endpoints ∧
      (index.revalidate source path).1.snapshot =
        index.snapshot.put ⟨path, modified, endpoints⟩ := by
  unfold revalidate at updated ⊢
  cases stamp : source.modified path with
  | error fault => simp [stamp] at updated
  | ok modified =>
    simp only [stamp] at updated ⊢
    by_cases current : index.isCurrent path modified
    · simp [current] at updated
    · rw [if_neg current] at updated ⊢
      obtain ⟨content, endpoints, answer, taken, shown⟩ := reread_of_updated updated
      exact ⟨modified, content, endpoints, rfl, answer, taken, shown⟩

/-- An entry is made anew only from what an extractor finds in the content of the file. -/
theorem changed_of_updated {source : Source}
    (updated : (index.changed source path).2 = .ok .updated) :
    ∃ modified content endpoints, source.modified path = .ok modified ∧
      source.read path = .ok content ∧ index.catalogue.endpoints? path content = some endpoints ∧
      (index.changed source path).1.snapshot = index.snapshot.put ⟨path, modified, endpoints⟩ := by
  simp only [changed] at updated ⊢
  by_cases accepted : source.accepts path
  · rw [if_pos accepted] at updated ⊢
    simpa using revalidate_of_updated updated
  · rw [if_neg accepted] at updated
    simp only [Except.ok.injEq] at updated
    exact absurd updated (remove_ne_updated _ path)

end Index

namespace Interleaving

def Look.Good (good : CacheEntry → Prop) (path : Path) : Look → Prop
  | .settled (.taken entry) => entry.path = path ∧ good entry
  | _ => True

/-- The files of a scan are different ones, and so are those of its entries. -/
def Stage.Parted (good : CacheEntry → Prop) : Stage → Prop
  | .looking files =>
    ((files.map Prod.fst).Pairwise fun path other => ¬ path.same other) ∧
      ∀ item ∈ files, item.2.Good good item.1
  | .closing results => Snapshot.Parted good ⟨results.filterMap FileResult.taken?⟩
  | _ => True

variable {good : CacheEntry → Prop}

theorem Look.good_ofStamp (path : Path) (answer : Except Fault Stamp) :
    (Look.ofStamp answer).Good good path := by
  cases answer <;> trivial

theorem Look.good_ofRead {catalogue : Catalogue} (makes : catalogue.Makes good) (path : Path)
    (modified : Stamp) (answer : Except Fault Text) :
    (Look.settled (.ofRead catalogue path modified answer)).Good good path := by
  cases answer with
  | error fault => trivial
  | ok content =>
    simp only [FileResult.ofRead, FileResult.ofContent]
    split
    · exact ⟨rfl, makes ‹_›⟩
    · trivial

theorem map_fst_set {files : List (Path × Look)} {position : Nat} {path : Path} {old : Look}
    (item : files[position]? = some (path, old)) (new : Look) :
    (files.set position (path, new)).map Prod.fst = files.map Prod.fst := by
  obtain ⟨inside, here⟩ := List.getElem?_eq_some_iff.mp item
  have within : position < (files.map Prod.fst).length := by simpa
  have same := List.set_getElem_self within
  rw [List.map_set]
  simpa [here] using same

theorem Stage.Parted.set {files : List (Path × Look)} (parted : (Stage.looking files).Parted good)
    {position : Nat} {path : Path} {old new : Look} (item : files[position]? = some (path, old))
    (found : new.Good good path) :
    (Stage.looking (files.set position (path, new))).Parted good := by
  constructor
  · rw [map_fst_set item]
    exact parted.1
  · intro other member
    rcases List.mem_or_eq_of_mem_set member with member | rfl
    · exact parted.2 other member
    · exact found

def Look.taken? : Look → Option CacheEntry
  | .settled result => result.taken?
  | _ => none

theorem Look.Good.of_taken? {path : Path} {look : Look} (found : look.Good good path)
    {entry : CacheEntry} (taken : look.taken? = some entry) : entry.path = path ∧ good entry := by
  cases look with
  | unseen | stamped => cases taken
  | settled result =>
    cases result with
    | taken found =>
      cases taken
      exact found
    | unclaimed | failed => cases taken

/-- The results no longer tell their files, but the entries among them do. -/
theorem filterMap_taken? {files : List (Path × Look)} {results : List FileResult}
    (settled : files.map Prod.snd = results.map .settled) :
    results.filterMap FileResult.taken? = files.filterMap fun item => item.2.taken? := by
  have same := congrArg (List.filterMap Look.taken?) settled
  rw [List.filterMap_map, List.filterMap_map] at same
  exact same.symm

theorem pairwise_taken? {files : List (Path × Look)}
    (distinct : (files.map Prod.fst).Pairwise fun path other => ¬ path.same other)
    (own : ∀ item ∈ files, ∀ entry, item.2.taken? = some entry → entry.path = item.1) :
    (files.filterMap fun item => item.2.taken?).Pairwise fun entry other =>
      ¬ entry.path.same other.path := by
  rw [List.pairwise_map] at distinct
  rw [List.pairwise_filterMap]
  apply distinct.imp_of_mem
  intro item other listed also differ entry taken second found
  rw [own item listed entry taken, own other also second found]
  exact differ

theorem Stage.Parted.close {files : List (Path × Look)} {results : List FileResult}
    (parted : (Stage.looking files).Parted good)
    (settled : files.map Prod.snd = results.map .settled) :
    (Stage.closing results).Parted good := by
  obtain ⟨distinct, each⟩ := parted
  have entries := filterMap_taken? settled
  constructor
  · simp only [entries]
    exact pairwise_taken? distinct fun item listed entry taken =>
      ((each item listed).of_taken? taken).1
  · intro entry member
    simp only [entries, List.mem_filterMap] at member
    obtain ⟨item, listed, taken⟩ := member
    exact ((each item listed).of_taken? taken).2

end Interleaving

namespace Traffic

open Interleaving

structure State.Parted (good : CacheEntry → Prop) (s : State) : Prop where
  snapshot : s.index.snapshot.Parted good
  scans : ∀ scan, (s.scans scan).Parted good

variable {good : CacheEntry → Prop} {catalogue : Catalogue} {frameworks : List Framework}
  {s t : State}

theorem State.Parted.looking (parted : s.Parted good) {scan : Nat} {files : List (Path × Look)}
    (stage : s.scans scan = .looking files) : (Stage.looking files).Parted good := by
  have known := parted.scans scan
  rwa [stage] at known

theorem State.Parted.step (parted : s.Parted good) (makes : s.index.catalogue.Makes good)
    (next : Step Source.Unrepeated s t) : t.Parted good := by
  have shown := parted.snapshot
  have scans := parted.scans
  -- paths come in with a listing, entries with the end of a look at one of these paths
  cases next with
  | number | register | discard | report =>
    exact ⟨shown, State.forall_setScan scans _ trivial⟩
  | list trust stage =>
    refine ⟨shown, State.forall_setScan scans _ ⟨?_, ?_⟩⟩
    · simpa [Function.comp_def] using trust s.index.catalogue.extensions
    · intro item member
      obtain ⟨path, _, rfl⟩ := List.mem_map.mp member
      trivial
  | stat trust stage item =>
    refine ⟨shown, State.forall_setScan scans _ ?_⟩
    exact (parted.looking stage).set item (Look.good_ofStamp _ _)
  | read trust stage item =>
    refine ⟨shown, State.forall_setScan scans _ ?_⟩
    exact (parted.looking stage).set item (Look.good_ofRead makes _ _ _)
  | close free stage settled =>
    have closed := (parted.looking stage).close settled
    exact ⟨shown, State.forall_setScan scans _ closed⟩
  | accept locked latest => exact ⟨shown, scans⟩
  | @publish scan results locked stage =>
    have entries := scans scan
    rw [stage] at entries
    exact ⟨entries, State.forall_setScan scans _ trivial⟩
  | replay trust locked => exact ⟨(Index.edits_replay _ _ _).parted makes shown, scans⟩
  | changed trust free => exact ⟨(Index.edits_changed _ _ _).parted_of_touch makes shown, scans⟩
  | deleted free => exact ⟨(Index.edits_deleted _ _).parted_of_touch makes shown, scans⟩

theorem Reaches.parted (reached : Reaches catalogue Source.Unrepeated s)
    (makes : catalogue.Makes good) : s.Parted good := by
  induction reached with
  | start => exact ⟨⟨.nil, by simp [State.initial, Index.new, Snapshot.empty]⟩, fun _ => trivial⟩
  | step past next ih =>
    rw [← past.catalogue_eq] at makes
    exact ih.step makes next

theorem Reaches.distinct (reached : Reaches catalogue Source.Unrepeated s) :
    s.index.snapshot.Distinct := by
  have parted : s.Parted fun _ => True := reached.parted fun _ => trivial
  exact parted.snapshot.distinct

/-- Over sources that list no path twice, every snapshot that is ever shown has one entry for a file at
most, shows the endpoints of its entries in their order, and has in each entry endpoints of its file only.
So deleting a file drops just the endpoints declared in it, and a file that is made anew puts its
endpoints behind those of all others. -/
theorem snapshot_parted_by_file
    (reached : Reaches (.ofList frameworks) Source.Unrepeated s) :
    (s.index.snapshot.entries.Pairwise fun entry other => ¬ entry.path.same other.path) ∧
    s.index.endpoints = (s.index.snapshot.entries.map CacheEntry.endpoints).flatten ∧
    (∀ entry ∈ s.index.snapshot.entries, ∀ endpoint ∈ entry.endpoints,
      endpoint.location.file = entry.path) ∧
    (∀ path, (s.index.deleted path).1.endpoints =
      s.index.endpoints.filter fun endpoint => !endpoint.location.file.same path) ∧
    ∀ source path, (s.index.changed source path).2 = .ok .updated →
      ∃ content endpoints, source.read path = .ok content ∧
        (Catalogue.ofList frameworks).endpoints? path content = some endpoints ∧
        (s.index.changed source path).1.endpoints =
          (s.index.endpoints.filter fun endpoint => !endpoint.location.file.same path) ++
            endpoints := by
  have parted := (reached.parted (Catalogue.makes_own frameworks)).snapshot
  refine ⟨parted.distinct, List.flatMap_def, parted.each, ?_, ?_⟩
  · intro path
    rw [Index.endpoints, Index.snapshot_deleted, parted.endpoints_erase]
    rfl
  · intro source path updated
    obtain ⟨modified, content, endpoints, _, answer, taken, shown⟩ := Index.changed_of_updated updated
    rw [reached.catalogue_eq] at taken
    refine ⟨content, endpoints, answer, taken, ?_⟩
    rw [Index.endpoints, shown, Snapshot.endpoints_put, parted.endpoints_erase]
    rfl

def twoFiles : MemoryFiles :=
  (MemoryFiles.empty.write ⟨"a.py"⟩ "import flask\n@a.route('/a')").write ⟨"b.py"⟩
    "import flask\n@b.route('/b')\n@b.route('/c')"

def twoFilesLater : MemoryFiles := twoFiles.write ⟨"a.py"⟩ "import flask\n@a.route('/d')"

theorem snapshot_parted_by_file_of_twoFiles :
    ∃ s, Reaches (.ofList [.flask]) Source.Unrepeated s ∧
      s.index.endpoints.map (·.route) = ["/a".toList, "/b".toList, "/c".toList] ∧
      (s.index.snapshot.entries.Pairwise fun entry other => ¬ entry.path.same other.path) ∧
      ((s.index.deleted ⟨"a.py"⟩).1.endpoints = s.index.endpoints.filter fun endpoint =>
        !endpoint.location.file.same ⟨"a.py"⟩) ∧
      (s.index.deleted ⟨"a.py"⟩).1.endpoints.map (·.route) = ["/b".toList, "/c".toList] ∧
      (∃ endpoints, (s.index.changed twoFilesLater.source ⟨"a.py"⟩).1.endpoints =
        (s.index.endpoints.filter fun endpoint => !endpoint.location.file.same ⟨"a.py"⟩) ++
          endpoints) ∧
      (s.index.changed twoFilesLater.source ⟨"a.py"⟩).1.endpoints.map (·.route) =
        ["/b".toList, "/c".toList, "/d".toList] := by
  have trust : twoFiles.source.Unrepeated := MemoryFiles.unrepeated_source (by decide +kernel)
  have reached : Reaches (.ofList [.flask]) Source.Unrepeated _ := .start
  obtain ⟨s, scanned, _, index, _⟩ := reached.fullScan twoFiles.source trust rfl
  obtain ⟨distinct, _, _, deleted, changed⟩ := snapshot_parted_by_file scanned
  have updated : (s.index.changed twoFilesLater.source ⟨"a.py"⟩).2 = .ok .updated := by
    rw [index]
    decide +kernel
  obtain ⟨_, endpoints, _, _, shown⟩ := changed _ _ updated
  refine ⟨s, scanned, ?_, distinct, deleted _, ?_, ⟨endpoints, shown⟩, ?_⟩ <;> rw [index] <;>
    decide +kernel

end Traffic

end RouteAtlas
