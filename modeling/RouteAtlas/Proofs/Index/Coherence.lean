import RouteAtlas.Proofs.Index.Execution

namespace RouteAtlas.Interleaving

/-- A stamp that was given out, and whose write has been stored. It never turns up again. -/
def System.Settled (s : System) (modified : Stamp) : Prop :=
  modified ≤ s.memory.clock ∧ ∀ file ∈ s.pending, file.modified ≠ modified

/-- The entry was made from some content. While the file has its stamp, that is the content of the
file. -/
def System.Faithful (catalogue : Catalogue) (s : System) (entry : CacheEntry) : Prop :=
  s.Settled entry.modified ∧
    (∃ content, catalogue.endpoints? entry.path content = some entry.endpoints) ∧
    ∀ file, s.memory.file? entry.path = some file → file.modified = entry.modified →
      catalogue.endpoints? entry.path file.content = some entry.endpoints

def Look.Faithful (catalogue : Catalogue) (s : System) : Look → Prop
  | .unseen => True
  | .stamped modified => s.Settled modified
  | .settled result => ∀ entry, result.taken? = some entry → s.Faithful catalogue entry

def Stage.Faithful (catalogue : Catalogue) (s : System) : Stage → Prop
  | .looking files => ∀ item ∈ files, item.2.Faithful catalogue s
  | .closing results => ∀ result ∈ results, (Look.settled result).Faithful catalogue s
  | _ => True

/-- Later states: settled stamps stay settled, and a file that has one has had it all along. -/
structure Advances (s t : System) : Prop where
  settled : ∀ {modified}, s.Settled modified → t.Settled modified
  files : ∀ {path file}, t.memory.file? path = some file → s.Settled file.modified →
    ∃ old, s.memory.file? path = some old ∧ old.modified = file.modified ∧
      old.content = file.content

theorem Advances.of_source_eq {s t : System} (memory : t.memory = s.memory)
    (pending : t.pending = s.pending) : Advances s t := by
  constructor
  · intro modified settled
    simpa only [System.Settled, memory, pending] using settled
  · intro path file found _
    rw [memory] at found
    exact ⟨file, found, rfl, rfl⟩

theorem Advances.tick (s : System) (path : Path) (content : Text) :
    Advances s { s with
      memory := s.memory.tick.2
      pending := ⟨path, s.memory.tick.1, content⟩ :: s.pending } := by
  constructor
  · rintro modified ⟨bound, fresh⟩
    refine ⟨Nat.le_succ_of_le bound, ?_⟩
    intro file member
    rcases List.mem_cons.mp member with rfl | member
    · exact Nat.ne_of_gt (Nat.lt_succ_of_le bound)
    · exact fresh file member
  · intro other file found _
    exact ⟨file, found, rfl, rfl⟩

theorem Advances.store (s : System) {file : MemoryFile} (waiting : file ∈ s.pending) :
    Advances s { s with memory := s.memory.store file, pending := s.pending.erase file } := by
  constructor
  · rintro modified ⟨bound, fresh⟩
    exact ⟨bound, fun other member => fresh other (List.mem_of_mem_erase member)⟩
  · intro path stored found settled
    obtain ⟨spelling, _, lookup⟩ := MemoryFiles.file?_store s.memory file path
    rw [lookup] at found
    split at found
    · -- the stored write was pending, so its stamp was not settled
      cases found
      exact absurd rfl (settled.2 file waiting)
    · exact ⟨stored, found, rfl, rfl⟩

theorem Advances.erase (s : System) (path : Path) :
    Advances s { s with memory := s.memory.remove path } := by
  constructor
  · exact id
  · intro other file found _
    rw [MemoryFiles.file?_remove] at found
    split at found
    · cases found
    · exact ⟨file, found, rfl, rfl⟩

theorem Step.advances {s t : System} {action : Action} (next : Step s action t) :
    Advances s t := by
  cases next with
  | tick path content => exact Advances.tick s path content
  | store waiting => exact Advances.store s waiting
  | erase found => exact Advances.erase s _
  | glance locked => exact Advances.of_source_eq (by simp) (by simp)
  | fetch locked => exact Advances.of_source_eq (by simp) (by simp)
  | _ => exact Advances.of_source_eq rfl rfl

section Monotone

variable {catalogue : Catalogue} {s t : System} (advances : Advances s t)
include advances

theorem Advances.faithful {entry : CacheEntry} (faithful : s.Faithful catalogue entry) :
    t.Faithful catalogue entry := by
  refine ⟨advances.settled faithful.1, faithful.2.1, ?_⟩
  intro file found same
  have settled : s.Settled file.modified := by rw [same]; exact faithful.1
  obtain ⟨old, oldFound, oldStamp, oldContent⟩ := advances.files found settled
  rw [← oldContent]
  exact faithful.2.2 old oldFound (oldStamp.trans same)

theorem Advances.look {look : Look} (faithful : look.Faithful catalogue s) :
    look.Faithful catalogue t := by
  cases look with
  | unseen => trivial
  | stamped modified => exact advances.settled faithful
  | settled result => exact fun entry taken => advances.faithful (faithful entry taken)

theorem Advances.stage {stage : Stage} (faithful : stage.Faithful catalogue s) :
    stage.Faithful catalogue t := by
  cases stage with
  | looking files => exact fun item member => advances.look (faithful item member)
  | closing results => exact fun result member => advances.look (faithful result member)
  | absent | numbered | registered | published | finished => trivial

end Monotone

structure System.Stamped (s : System) : Prop where
  bound : ∀ file ∈ s.pending, file.modified ≤ s.memory.clock
  distinct : s.pending.Pairwise fun file other => file.modified ≠ other.modified
  stored : ∀ {path file}, s.memory.file? path = some file → s.Settled file.modified

theorem System.Stamped.of_source_eq {s t : System} (stamped : s.Stamped)
    (memory : t.memory = s.memory) (pending : t.pending = s.pending) : t.Stamped := by
  constructor
  · simpa only [memory, pending] using stamped.bound
  · simpa only [pending] using stamped.distinct
  · intro path file found
    rw [memory] at found
    exact (Advances.of_source_eq memory pending).settled (stamped.stored found)

theorem System.Stamped.tick {s : System} (stamped : s.Stamped) (path : Path) (content : Text) :
    System.Stamped { s with
      memory := s.memory.tick.2
      pending := ⟨path, s.memory.tick.1, content⟩ :: s.pending } := by
  constructor
  · intro file member
    rcases List.mem_cons.mp member with rfl | member
    · exact Nat.le_refl _
    · exact Nat.le_succ_of_le (stamped.bound file member)
  · refine List.pairwise_cons.mpr ⟨?_, stamped.distinct⟩
    intro file member same
    have bound := stamped.bound file member
    rw [← same] at bound
    exact Nat.not_succ_le_self _ bound
  · intro other file found
    exact (Advances.tick s path content).settled (stamped.stored found)

theorem System.Stamped.store {s : System} (stamped : s.Stamped) {file : MemoryFile}
    (waiting : file ∈ s.pending) :
    System.Stamped { s with memory := s.memory.store file, pending := s.pending.erase file } := by
  constructor
  · exact fun other member => stamped.bound other (List.mem_of_mem_erase member)
  · exact stamped.distinct.sublist List.erase_sublist
  · intro path stored found
    obtain ⟨spelling, _, lookup⟩ := MemoryFiles.file?_store s.memory file path
    rw [lookup] at found
    split at found
    · cases found
      refine ⟨stamped.bound file waiting, ?_⟩
      -- the stamps of pending writes differ, so none of the others has this one
      have others := (List.perm_cons_erase waiting).pairwise_iff
        (fun {_ _} (differ : _ ≠ _) => differ.symm) |>.mp stamped.distinct
      exact fun other member => ((List.pairwise_cons.mp others).1 other member).symm
    · exact (Advances.store s waiting).settled (stamped.stored found)

theorem System.Stamped.step {s t : System} {action : Action} (stamped : s.Stamped)
    (next : Step s action t) : t.Stamped := by
  cases next with
  | tick path content => exact stamped.tick path content
  | store waiting => exact stamped.store waiting
  | erase found =>
    refine ⟨stamped.bound, stamped.distinct, ?_⟩
    intro other file present
    rw [MemoryFiles.file?_remove] at present
    split at present
    · cases present
    · exact stamped.stored present
  | glance locked => exact stamped.of_source_eq (by simp) (by simp)
  | fetch locked => exact stamped.of_source_eq (by simp) (by simp)
  | _ => exact stamped.of_source_eq rfl rfl

/-- Nobody holds a stamp that could turn up again, or an entry that its stamp belies. -/
structure System.Coherent (catalogue : Catalogue) (s : System) : Prop where
  fixed : s.index.catalogue = catalogue
  stamped : s.Stamped
  snapshot : ∀ entry ∈ s.index.snapshot.entries, s.Faithful catalogue entry
  scans : ∀ scan, (s.scans scan).Faithful catalogue s
  visit : ∀ {visitor path modified}, s.lock = .visiting visitor path (some modified) →
    s.Settled modified

section Coherent

variable {catalogue : Catalogue} {s t : System}

theorem System.Faithful.of_read {path : Path} {modified : Stamp} {content : Text}
    {endpoints : List Endpoint} (settled : s.Settled modified)
    (read : s.memory.source.read path = .ok content)
    (taken : catalogue.endpoints? path content = some endpoints) :
    s.Faithful catalogue ⟨path, modified, endpoints⟩ := by
  refine ⟨settled, ⟨content, taken⟩, ?_⟩
  intro file found _
  obtain ⟨current, present, same⟩ := (MemoryFiles.read_eq_ok_iff _ _ _).mp read
  rw [present] at found
  cases found
  rw [same]
  exact taken

theorem Look.Faithful.of_stat (stamped : s.Stamped) (path : Path) :
    (Look.ofStamp (s.memory.source.modified path)).Faithful catalogue s := by
  cases answer : s.memory.source.modified path with
  | error fault => simp [Look.ofStamp, Look.Faithful, FileResult.taken?]
  | ok modified =>
    obtain ⟨file, found, same⟩ := (MemoryFiles.modified_eq_ok_iff _ _ _).mp answer
    rw [← same]
    exact stamped.stored found

theorem Look.Faithful.of_read {path : Path} {modified : Stamp} (settled : s.Settled modified) :
    (Look.settled (.ofRead catalogue path modified (s.memory.source.read path))).Faithful
      catalogue s := by
  intro entry taken
  cases answer : s.memory.source.read path with
  | error fault => simp [answer, FileResult.ofRead, FileResult.taken?] at taken
  | ok content =>
    simp only [answer, FileResult.ofRead, FileResult.ofContent] at taken
    cases found : catalogue.endpoints? path content with
    | none => simp [found, FileResult.taken?] at taken
    | some endpoints =>
      simp only [found, FileResult.taken?, Option.some.injEq] at taken
      subst taken
      exact System.Faithful.of_read settled answer found

theorem System.Coherent.setScan (coherent : s.Coherent catalogue) (scan : Nat) {stage : Stage}
    (faithful : stage.Faithful catalogue s) : (s.setScan scan stage).Coherent catalogue := by
  refine { coherent with scans := ?_, stamped := coherent.stamped.of_source_eq rfl rfl }
  intro other
  by_cases same : other = scan
  · subst same
    rw [System.setScan_self]
    exact faithful
  · rw [System.setScan_of_ne s stage same]
    exact coherent.scans other

theorem System.Coherent.setCall (coherent : s.Coherent catalogue) (ticket : Nat) (call : Call) :
    (s.setCall ticket call).Coherent catalogue :=
  { coherent with stamped := coherent.stamped.of_source_eq rfl rfl }

theorem System.Coherent.setIndex (coherent : s.Coherent catalogue) {index : Index}
    (same : index.catalogue = s.index.catalogue)
    (entries : ∀ entry ∈ index.snapshot.entries, s.Faithful catalogue entry) :
    { s with index := index }.Coherent catalogue :=
  { coherent with
    fixed := same.trans coherent.fixed
    stamped := coherent.stamped.of_source_eq rfl rfl
    snapshot := entries }

theorem System.Coherent.setLocked (coherent : s.Coherent catalogue) {index : Index} {lock : Lock}
    (same : index.catalogue = s.index.catalogue)
    (entries : ∀ entry ∈ index.snapshot.entries, s.Faithful catalogue entry)
    (unstamped : ∀ {visitor path modified}, lock ≠ .visiting visitor path (some modified)) :
    { s with index := index, lock := lock }.Coherent catalogue :=
  { coherent.setIndex same entries with
    stamped := coherent.stamped.of_source_eq rfl rfl
    visit := fun held => absurd held unstamped }

theorem Lock.replaying_ne_stamped (scan : Nat) (queue : List Path) {visitor : Visitor} {path : Path}
    {modified : Stamp} : Lock.replaying scan queue ≠ .visiting visitor path (some modified) := by
  cases queue <;> simp [Lock.replaying]

theorem System.Coherent.endVisit (coherent : s.Coherent catalogue) (visitor : Visitor) (path : Path)
    {result : Index × Except Fault Outcome} (same : result.1.catalogue = s.index.catalogue)
    (entries : ∀ entry ∈ result.1.snapshot.entries, s.Faithful catalogue entry) :
    (s.endVisit visitor path result).Coherent catalogue := by
  cases visitor with
  | call ticket watched =>
    exact (coherent.setLocked same entries (by simp)).setCall ticket _
  | replay scan queue =>
    have kept := Index.kept_afterReplay path result
    have remaining : ∀ entry ∈ (Index.afterReplay path result).snapshot.entries,
        entry ∈ result.1.snapshot.entries := by
      obtain ⟨index, fault | outcome⟩ := result
      · intro entry member
        simp only [Index.afterReplay] at member
        split at member
        · exact Index.mem_remove member
        · exact member
      · exact fun entry member => member
    exact coherent.setLocked (kept.catalogue.trans same)
      (fun entry member => entries entry (remaining entry member))
      (Lock.replaying_ne_stamped scan queue)

theorem System.Coherent.glance (coherent : s.Coherent catalogue) (visitor : Visitor) (path : Path) :
    (s.glance visitor path).Coherent catalogue := by
  rcases s.glance_cases visitor path with ⟨fault, _, ends⟩ | ⟨m, _, _, ends⟩ | ⟨m, stat, _, ends⟩
  · rw [ends]
    exact coherent.endVisit visitor path rfl coherent.snapshot
  · rw [ends]
    exact coherent.endVisit visitor path rfl coherent.snapshot
  · rw [ends]
    obtain ⟨file, found, same⟩ := (MemoryFiles.modified_eq_ok_iff _ _ _).mp stat
    refine { coherent with stamped := coherent.stamped.of_source_eq rfl rfl, visit := ?_ }
    intro other place modified held
    cases held
    rw [← same]
    exact coherent.stamped.stored found

theorem System.Coherent.fetch (coherent : s.Coherent catalogue) {visitor : Visitor} {path : Path}
    {modified : Stamp} (locked : s.lock = .visiting visitor path (some modified)) :
    (s.fetch visitor path modified).Coherent catalogue := by
  have kept := Index.kept_reread s.index path modified (s.memory.source.read path)
  refine coherent.endVisit visitor path kept.catalogue ?_
  intro entry member
  cases answer : s.memory.source.read path with
  | error fault =>
    rw [answer] at member
    exact coherent.snapshot entry member
  | ok content =>
    rw [answer] at member
    rcases Index.mem_refresh member with member | ⟨endpoints, taken, rfl⟩
    · exact coherent.snapshot entry member
    · rw [coherent.fixed] at taken
      exact System.Faithful.of_read (coherent.visit locked) answer taken

/-- Whatever else a step does, what was faithful before stays so. -/
theorem System.Coherent.advance (coherent : s.Coherent catalogue) (advances : Advances s t)
    (stamped : t.Stamped) (index : t.index = s.index) (scans : t.scans = s.scans)
    (lock : t.lock = s.lock) : t.Coherent catalogue := by
  constructor
  · rw [index]
    exact coherent.fixed
  · exact stamped
  · rw [index]
    exact fun entry member => advances.faithful (coherent.snapshot entry member)
  · rw [scans]
    exact fun scan => advances.stage (coherent.scans scan)
  · intro visitor path modified held
    rw [lock] at held
    exact advances.settled (coherent.visit held)

theorem System.Coherent.looking (coherent : s.Coherent catalogue) {scan position : Nat}
    {files : List (Path × Look)} (stage : s.scans scan = .looking files) {path : Path} {look : Look}
    (faithful : look.Faithful catalogue s) :
    (s.setScan scan (.looking (files.set position (path, look)))).Coherent catalogue := by
  have known := coherent.scans scan
  rw [stage] at known
  refine coherent.setScan scan ?_
  intro item member
  rcases List.mem_or_eq_of_mem_set member with member | rfl
  · exact known item member
  · exact faithful

theorem System.Coherent.step {action : Action} (coherent : s.Coherent catalogue)
    (next : Step s action t) : t.Coherent catalogue := by
  have advances := next.advances
  have stamped := coherent.stamped.step next
  cases next with
  | tick path content => exact coherent.advance advances stamped rfl rfl rfl
  | store waiting => exact coherent.advance advances stamped rfl rfl rfl
  | erase found => exact coherent.advance advances stamped rfl rfl rfl
  | number =>
    refine (coherent.setIndex ?_ ?_).setScan _ ?_
    · rfl
    · exact coherent.snapshot
    · trivial
  | register free stage =>
    refine (coherent.setIndex ?_ ?_).setScan _ ?_
    · rfl
    · exact coherent.snapshot
    · trivial
  | list stage =>
    refine coherent.setScan _ ?_
    intro item member
    obtain ⟨path, _, rfl⟩ := List.mem_map.mp member
    trivial
  | stat stage item => exact coherent.looking stage (Look.Faithful.of_stat coherent.stamped _)
  | @read scan position files path modified stage item =>
    have known := coherent.scans scan
    rw [stage] at known
    have settled : s.Settled modified := known _ (List.mem_of_getElem? item)
    rw [coherent.fixed]
    exact coherent.looking stage (Look.Faithful.of_read settled)
  | @close scan files results free stage settled =>
    have known := coherent.scans scan
    rw [stage] at known
    refine (coherent.setLocked ?_ ?_ ?_).setScan scan ?_
    · rfl
    · exact coherent.snapshot
    · simp
    · intro result member
      have look : Look.settled result ∈ files.map Prod.snd := by
        rw [settled]
        exact List.mem_map_of_mem member
      obtain ⟨item, listed, same⟩ := List.mem_map.mp look
      have faithful := known item listed
      rw [same] at faithful
      exact faithful
  | discard locked stage outdated =>
    refine (coherent.setLocked ?_ ?_ ?_).setScan _ ?_
    · rfl
    · exact coherent.snapshot
    · simp
    · trivial
  | accept locked latest => exact coherent.setLocked rfl coherent.snapshot (by simp)
  | @publish scan results locked stage =>
    have known := coherent.scans scan
    rw [stage] at known
    refine (coherent.setLocked ?_ ?_ ?_).setScan scan ?_
    · rfl
    · intro entry member
      obtain ⟨result, collected, taken⟩ := List.mem_filterMap.mp member
      exact known result collected entry taken
    · exact Lock.replaying_ne_stamped scan _
    · trivial
  | report unlocked stage => exact coherent.setScan _ trivial
  | call request new => exact coherent.setCall _ _
  | enter free state =>
    refine (coherent.setLocked ?_ ?_ (by simp)).setCall _ _
    · simp
    · simpa using coherent.snapshot
  | @delete ticket path missing free state =>
    have kept := Index.kept_remove (s.index.touch path) path
    refine (coherent.setIndex ?_ ?_).setCall _ _
    · exact kept.catalogue.trans (by simp)
    · intro entry member
      have present := Index.mem_remove member
      rw [Index.touch_snapshot] at present
      exact coherent.snapshot entry present
  | glance locked => exact coherent.glance _ _
  | fetch locked => exact coherent.fetch locked

end Coherent

theorem System.Coherent.initial (catalogue : Catalogue) : (System.initial catalogue).Coherent catalogue where
  fixed := rfl
  stamped := ⟨by simp [System.initial], by simp [System.initial], by
    simp [System.initial, MemoryFiles.empty, MemoryFiles.file?]⟩
  snapshot := by simp [System.initial, Index.new, Snapshot.empty]
  scans := fun _ => trivial
  visit := by simp [System.initial]

theorem Run.coherent {catalogue : Catalogue} {admits : System → Action → Prop}
    {history : List Action} {s : System} (run : Run catalogue admits history s) :
    s.Coherent catalogue := by
  induction run with
  | start => exact System.Coherent.initial catalogue
  | step past admitted next ih => exact ih.step next

theorem Stage.mem_collected {stage : Stage} {entry : CacheEntry} (member : entry ∈ stage.collected)
    {catalogue : Catalogue} {s : System} (faithful : stage.Faithful catalogue s) :
    s.Faithful catalogue entry := by
  cases stage with
  | looking files =>
    obtain ⟨⟨path, look⟩, listed, taken⟩ := List.mem_filterMap.mp member
    have known := faithful _ listed
    cases look with
    | unseen => cases taken
    | stamped modified => cases taken
    | settled result => exact known entry taken
  | closing results =>
    obtain ⟨result, listed, taken⟩ := List.mem_filterMap.mp member
    exact faithful result listed entry taken
  | absent | numbered | registered | published | finished => cases member

/-- Taking an entry for current when its stamp is the file's is always sound: the file is one that an
extractor takes, and its endpoints are those of the entry. This goes for the entries of the snapshot
and for those that a running scan has made. -/
theorem entry_of_current_stamp {catalogue : Catalogue} {admits : System → Action → Prop}
    {history : List Action} {s : System} (run : Run catalogue admits history s) (entry : CacheEntry)
    (held : entry ∈ s.index.snapshot.entries ∨ ∃ scan, entry ∈ (s.scans scan).collected)
    (current : s.memory.source.modified entry.path = .ok entry.modified) :
    ∃ content extractor, s.memory.source.read entry.path = .ok content ∧
      catalogue.select? entry.path content = some extractor ∧
      entry.endpoints = extractor.extract entry.path content := by
  have coherent := run.coherent
  have faithful : s.Faithful catalogue entry := by
    rcases held with member | ⟨scan, member⟩
    · exact coherent.snapshot entry member
    · exact Stage.mem_collected member (coherent.scans scan)
  obtain ⟨file, found, same⟩ := (MemoryFiles.modified_eq_ok_iff _ _ _).mp current
  have taken := faithful.2.2 file found same
  obtain ⟨extractor, selected, extracted⟩ := (Catalogue.endpoints?_eq_some_iff _ _ _ _).mp taken
  exact ⟨file.content, extractor, (MemoryFiles.read_eq_ok_iff _ _ _).mpr ⟨file, found, rfl⟩,
    selected, extracted.symm⟩

/-- Two writes that are stored in the reverse order, and a scan. -/
theorem entry_of_current_stamp_after_late_store :
    ∃ s, Run (.ofList [.echo]) (fun _ _ => True)
      [.report 1, .publish 1, .accept 1, .close 1, .read 1 0, .stat 1 0, .list 1, .register 1, .number,
        .store ⟨⟨"a.go".toList⟩, 1, "echo.New()\ne.GET(\"/a\", h)".toList⟩,
        .store ⟨⟨"a.go".toList⟩, 2, []⟩, .tick ⟨"a.go".toList⟩ [],
        .tick ⟨"a.go".toList⟩ "echo.New()\ne.GET(\"/a\", h)".toList] s ∧
      ∃ entry ∈ s.index.snapshot.entries, entry.endpoints.length = 1 ∧
        s.memory.source.modified entry.path = .ok entry.modified ∧
        ∃ content extractor, s.memory.source.read entry.path = .ok content ∧
          Catalogue.select? (.ofList [.echo]) entry.path content = some extractor ∧
          entry.endpoints = extractor.extract entry.path content := by
  refine exists_run (fun s => ∃ entry ∈ s.index.snapshot.entries, entry.endpoints.length = 1 ∧
    (s.memory.file? entry.path).map MemoryFile.modified = some entry.modified)
    (by decide +kernel) id ?_
  rintro s run ⟨entry, member, known, stamp⟩
  have current : s.memory.source.modified entry.path = .ok entry.modified :=
    (MemoryFiles.modified_eq_ok_iff _ _ _).mpr (Option.map_eq_some_iff.mp stamp)
  exact ⟨entry, member, known, current, entry_of_current_stamp run entry (.inl member) current⟩

end RouteAtlas.Interleaving
