import RouteAtlas.Proofs.Index.Supersession

namespace RouteAtlas

namespace Index

/-- What a look at one file can do: nothing, publish without the entry of the file, or publish with an
entry made from its content. -/
inductive Edits (index : Index) (path : Path) : Index → Prop where
  | same : Edits index path index
  | dropped : Edits index path (index.publish (index.snapshot.erase path))
  | made {modified : Stamp} {content : Text} {endpoints : List Endpoint}
    (taken : index.catalogue.endpoints? path content = some endpoints) :
    Edits index path (index.publish (index.snapshot.put ⟨path, modified, endpoints⟩))

theorem Edits.kept {index after : Index} {path : Path} (edits : Edits index path after) :
    Kept index after := by
  cases edits <;> exact ⟨rfl, rfl, rfl, rfl⟩

theorem edits_remove (index : Index) (path : Path) : Edits index path (index.remove path).1 := by
  unfold remove
  split
  · exact .dropped
  · exact .same

theorem edits_reread (index : Index) (path : Path) (modified : Stamp) (answer : Except Fault Text) :
    Edits index path (index.reread path modified answer).1 := by
  cases answer with
  | error fault => exact .same
  | ok content =>
    simp only [reread, refresh]
    split
    · exact .made ‹_›
    · exact edits_remove index path

theorem edits_revalidate (index : Index) (source : Source) (path : Path) :
    Edits index path (index.revalidate source path).1 := by
  unfold revalidate
  split
  · exact .same
  split
  · exact .same
  · exact edits_reread index path _ _

theorem revalidate_of_error {index : Index} {source : Source} {path : Path} {fault : Fault}
    (failed : (index.revalidate source path).2 = .error fault) :
    (index.revalidate source path).1 = index := by
  unfold revalidate at failed ⊢
  split at failed
  · rfl
  split at failed
  · cases failed
  · rename_i differ
    rw [if_neg differ]
    cases answer : source.read path with
    | error fault => rfl
    | ok content => simp [answer, reread] at failed

theorem edits_replay (source : Source) (index : Index) (path : Path) :
    Edits index path (replay source index path) := by
  unfold replay
  split
  · have edits := edits_revalidate index source path
    cases result : index.revalidate source path with
    | mk after outcome =>
      rw [result] at edits
      cases outcome with
      | ok outcome => exact edits
      | error fault =>
        have unchanged := revalidate_of_error (congrArg Prod.snd result)
        rw [result] at unchanged
        subst unchanged
        simp only [afterReplay]
        split
        · exact edits_remove _ path
        · exact .same
  · exact edits_remove index path

theorem edits_changed (index : Index) (source : Source) (path : Path) :
    Edits (index.touch path) path (index.changed source path).1 := by
  simp only [changed]
  split
  · exact edits_revalidate _ source path
  · exact edits_remove _ path

theorem edits_deleted (index : Index) (path : Path) :
    Edits (index.touch path) path (index.deleted path).1 :=
  edits_remove _ path

end Index

namespace Traffic

open Interleaving

structure State where
  index : Index
  scans : Nat → Stage
  lock : Lock

namespace State

def initial (catalogue : Catalogue) : State := ⟨.new catalogue, fun _ => .absent, .free⟩

def setScan (s : State) (scan : Nat) (stage : Stage) : State :=
  { s with scans := Function.update s.scans scan stage }

@[simp] theorem setScan_index (s : State) (scan : Nat) (stage : Stage) :
    (s.setScan scan stage).index = s.index := rfl

@[simp] theorem setScan_lock (s : State) (scan : Nat) (stage : Stage) :
    (s.setScan scan stage).lock = s.lock := rfl

@[simp] theorem setScan_self (s : State) (scan : Nat) (stage : Stage) :
    (s.setScan scan stage).scans scan = stage := by simp [setScan]

theorem forall_setScan {holds : Stage → Prop} {s : State} (others : ∀ scan, holds (s.scans scan))
    (scan : Nat) {stage : Stage} (here : holds stage) (other : Nat) :
    holds ((s.setScan scan stage).scans other) := by
  by_cases same : other = scan
  · rw [same, setScan_self]
    exact here
  · simpa [setScan, same] using others other

end State

/-- One step. Nothing is known of what a source answers, and it may answer differently from one step to
the next; `trusted` may restrict the sources in use. Whoever holds the writer lock keeps the others from
the snapshot, so a call is one step, and so is the second look at one touched path; scans overlap as they
like. A new file is a changed one. -/
inductive Step (trusted : Source → Prop) : State → State → Prop where
  | number {s : State} :
    Step trusted s
      ({ s with index := s.index.takeGeneration.2 }.setScan s.index.takeGeneration.1 .numbered)
  | register {s : State} {scan : Nat} (free : s.lock = .free) (stage : s.scans scan = .numbered) :
    Step trusted s ({ s with index := s.index.register }.setScan scan .registered)
  | list {s : State} {scan : Nat} {source : Source} (trust : trusted source)
    (stage : s.scans scan = .registered) :
    Step trusted s (s.setScan scan (.looking
      ((source.list s.index.catalogue.extensions).map fun path => (path, .unseen))))
  | stat {s : State} {scan position : Nat} {files : List (Path × Look)} {path : Path}
    {source : Source} (trust : trusted source) (stage : s.scans scan = .looking files)
    (item : files[position]? = some (path, .unseen)) :
    Step trusted s (s.setScan scan (.looking
      (files.set position (path, .ofStamp (source.modified path)))))
  | read {s : State} {scan position : Nat} {files : List (Path × Look)} {path : Path}
    {modified : Stamp} {source : Source} (trust : trusted source)
    (stage : s.scans scan = .looking files)
    (item : files[position]? = some (path, .stamped modified)) :
    Step trusted s (s.setScan scan (.looking (files.set position
      (path, .settled (.ofRead s.index.catalogue path modified (source.read path))))))
  | close {s : State} {scan : Nat} {files : List (Path × Look)} {results : List FileResult}
    (free : s.lock = .free) (stage : s.scans scan = .looking files)
    (settled : files.map Prod.snd = results.map .settled) :
    Step trusted s
      ({ s with index := s.index.unregister, lock := .deciding scan }.setScan scan (.closing results))
  | discard {s : State} {scan : Nat} {results : List FileResult} (locked : s.lock = .deciding scan)
    (stage : s.scans scan = .closing results) (outdated : scan ≠ s.index.generation) :
    Step trusted s ({ s with index := s.index.discardScan, lock := .free }.setScan scan
      (.finished (Index.discardedReport results)))
  | accept {s : State} {scan : Nat} (locked : s.lock = .deciding scan)
    (latest : scan = s.index.generation) :
    Step trusted s { s with lock := .publishing scan }
  | publish {s : State} {scan : Nat} {results : List FileResult}
    (locked : s.lock = .publishing scan) (stage : s.scans scan = .closing results) :
    Step trusted s
      ({ s with
        index := s.index.replaceEntries (results.filterMap FileResult.taken?)
        lock := .replaying scan s.index.touched }.setScan scan (.published results))
  | replay {s : State} {scan : Nat} {queue : List Path} {path : Path} {source : Source}
    (trust : trusted source) (locked : s.lock = .visiting (.replay scan queue) path none) :
    Step trusted s
      { s with index := Index.replay source s.index path, lock := .replaying scan queue }
  | report {s : State} {scan : Nat} {results : List FileResult} (unlocked : s.lock.scan? ≠ some scan)
    (stage : s.scans scan = .published results) :
    Step trusted s (s.setScan scan (.finished (s.index.publishedReport results)))
  | changed {s : State} {path : Path} {source : Source} (trust : trusted source)
    (free : s.lock = .free) :
    Step trusted s { s with index := (s.index.changed source path).1 }
  | deleted {s : State} {path : Path} (free : s.lock = .free) :
    Step trusted s { s with index := (s.index.deleted path).1 }

inductive Reaches (catalogue : Catalogue) (trusted : Source → Prop) : State → Prop where
  | start : Reaches catalogue trusted (.initial catalogue)
  | step {s t : State} (past : Reaches catalogue trusted s) (next : Step trusted s t) :
    Reaches catalogue trusted t

section Steady

variable {catalogue : Catalogue} {trusted : Source → Prop} {s t : State}

theorem Step.catalogue_eq (next : Step trusted s t) : t.index.catalogue = s.index.catalogue := by
  cases next with
  | replay trust locked => exact (Index.edits_replay _ _ _).kept.catalogue
  | changed trust free => exact (Index.edits_changed _ _ _).kept.catalogue.trans (by simp)
  | deleted free => exact (Index.edits_deleted _ _).kept.catalogue.trans (by simp)
  | _ => rfl

theorem Reaches.catalogue_eq (reached : Reaches catalogue trusted s) :
    s.index.catalogue = catalogue := by
  induction reached with
  | start => rfl
  | step past next ih => exact next.catalogue_eq.trans ih

/-- Unless a scan is about to end, no path is noted as touched while none runs. -/
def State.Quiet (s : State) : Prop :=
  s.lock.closer? = none → s.index.scansInFlight = 0 → s.index.touched = []

theorem State.Quiet.of_kept {index : Index} {lock : Lock} (quiet : s.Quiet)
    (kept : Index.Kept s.index index) (unlocked : s.lock.closer? = none) :
    State.Quiet { s with index := index, lock := lock } := by
  intro _ idle
  rw [kept.touched]
  exact quiet unlocked (by rwa [← kept.scansInFlight])

theorem State.Quiet.touch (quiet : s.Quiet) (path : Path) :
    State.Quiet { s with index := s.index.touch path } := by
  intro unlocked idle
  have idle : s.index.scansInFlight = 0 := by simpa using idle
  rw [Index.touch_of_idle _ path idle]
  exact quiet unlocked idle

theorem State.Quiet.step (quiet : s.Quiet) (next : Step trusted s t) : t.Quiet := by
  cases next with
  | number | list | stat | read | report => exact quiet
  | register free stage =>
    intro _ idle
    simp [Index.register] at idle
  | close free stage settled =>
    intro unlocked
    simp [Lock.closer?] at unlocked
  | discard locked stage outdated =>
    intro _ idle
    have idle : s.index.scansInFlight = 0 := idle
    simp [Index.discardScan, idle]
  | accept locked latest =>
    intro unlocked
    simp [Lock.closer?] at unlocked
  | publish locked stage => exact fun _ _ => rfl
  | replay trust locked =>
    exact quiet.of_kept (Index.edits_replay _ _ _).kept (by rw [locked]; rfl)
  | changed trust free =>
    exact (quiet.touch _).of_kept (Index.edits_changed _ _ _).kept (by rw [free]; rfl)
  | deleted free =>
    exact (quiet.touch _).of_kept (Index.edits_deleted _ _).kept (by rw [free]; rfl)

theorem Reaches.touched_eq_nil (reached : Reaches catalogue trusted s) (free : s.lock = .free)
    (idle : s.index.scansInFlight = 0) : s.index.touched = [] := by
  have quiet : s.Quiet := by
    clear free idle
    induction reached with
    | start => exact fun _ _ => rfl
    | step past next ih => exact ih.step next
  exact quiet (by rw [free]; rfl) idle

end Steady

section Alone

variable {catalogue : Catalogue} {trusted : Source → Prop} {source : Source} {s : State} {scan : Nat}

theorem State.setScan_setScan (s : State) (scan : Nat) (first second : Stage) :
    (s.setScan scan first).setScan scan second = s.setScan scan second := by
  simp [State.setScan]

theorem Reaches.look (reached : Reaches catalogue trusted s) (trust : trusted source)
    {front rest : List (Path × Look)} {path : Path}
    (stage : s.scans scan = .looking (front ++ (path, .unseen) :: rest)) :
    Reaches catalogue trusted (s.setScan scan (.looking (front ++
      (path, .settled (.ofSource s.index.catalogue source path)) :: rest))) := by
  have position : ∀ look, (front ++ (path, look) :: rest)[front.length]? = some (path, look) := by
    simp
  -- a file without a stamp is settled at once, and any other after it is read
  have stamped := reached.step (.stat trust stage (position .unseen))
  rw [List.set_append_right _ _ (Nat.le_refl _), Nat.sub_self, List.set_cons_zero] at stamped
  cases answer : source.modified path with
  | error fault =>
    rw [answer] at stamped
    rw [FileResult.ofSource, answer]
    exact stamped
  | ok modified =>
    rw [answer] at stamped
    have settled := stamped.step (.read trust (State.setScan_self ..) (position (.stamped modified)))
    rw [List.set_append_right _ _ (Nat.le_refl _), Nat.sub_self, List.set_cons_zero,
      State.setScan_setScan] at settled
    rw [FileResult.ofSource, answer]
    exact settled

theorem Reaches.lookAll (reached : Reaches catalogue trusted s) (trust : trusted source)
    (front : List (Path × Look)) {paths : List Path}
    (stage : s.scans scan = .looking (front ++ paths.map fun path => (path, .unseen))) :
    Reaches catalogue trusted (s.setScan scan (.looking (front ++ paths.map fun path =>
      (path, .settled (.ofSource s.index.catalogue source path))))) := by
  induction paths generalizing s front with
  | nil =>
    have same : s.setScan scan (.looking (front ++ [])) = s := by
      rw [List.map_nil] at stage
      simp only [State.setScan, ← stage, Function.update_eq_self]
    rw [List.map_nil, same]
    exact reached
  | cons path paths ih =>
    have next := reached.look trust stage
    have rest := ih next (front ++ [(path, .settled (.ofSource s.index.catalogue source path))])
      (by simp)
    simpa [State.setScan_setScan] using rest

theorem Reaches.replayAll {queue : List Path} (reached : Reaches catalogue trusted s)
    (trust : trusted source) (held : s.lock = .replaying scan queue) :
    Reaches catalogue trusted
      { s with index := queue.foldl (Index.replay source) s.index, lock := .free } := by
  induction queue generalizing s with
  | nil =>
    have same : { s with lock := .free } = s := by
      rw [show Lock.free = s.lock from held.symm]
    rw [List.foldl_nil, same]
    exact reached
  | cons path queue ih =>
    have next := reached.step (.replay trust held)
    exact ih next rfl

theorem Reaches.gather (reached : Reaches catalogue trusted s) (trust : trusted source)
    (free : s.lock = .free) :
    ∃ t, Reaches catalogue trusted t ∧ t.lock = .free ∧ t.index = s.index.beginScan.2 ∧
      t.scans s.index.beginScan.1 = .looking ((source.list s.index.catalogue.extensions).map
        fun path => (path, .settled (.ofSource s.index.catalogue source path))) := by
  have numbered := reached.step .number
  have registered := numbered.step (.register free (State.setScan_self ..))
  have listed := registered.step (.list trust (State.setScan_self ..))
  have looked := listed.lookAll trust [] (State.setScan_self ..)
  exact ⟨_, looked, free, rfl, State.setScan_self ..⟩

/-- The latest scan, once it has looked at all of its files, ends as `Index.finishScan` says. -/
theorem Reaches.settle (reached : Reaches catalogue trusted s) (trust : trusted source)
    (free : s.lock = .free) (latest : scan = s.index.generation) {paths : List Path}
    {resultOf : Path → FileResult}
    (stage : s.scans scan = .looking (paths.map fun path => (path, .settled (resultOf path)))) :
    ∃ t, Reaches catalogue trusted t ∧ t.lock = .free ∧
      t.index = (s.index.finishScan scan source (paths.map resultOf)).1 ∧
      t.scans scan = .finished (s.index.finishScan scan source (paths.map resultOf)).2 := by
  have settled : (paths.map fun path => (path, Look.settled (resultOf path))).map Prod.snd =
      (paths.map resultOf).map .settled := by
    simp
  have closed := reached.step (.close free stage settled)
  have accepted := closed.step (.accept rfl latest)
  have published := accepted.step (.publish rfl (State.setScan_self ..))
  have replayed := published.replayAll trust rfl
  have reported := replayed.step (.report (by simp [Lock.scan?]) (State.setScan_self ..))
  have current : scan = s.index.unregister.generation := latest
  refine ⟨_, reported, rfl, ?_, ?_⟩
  · simp only [Index.finishScan, if_pos current]
    rfl
  · simp only [Index.finishScan, if_pos current, State.setScan_self]
    rfl

/-- A scan that takes all its steps alone, over a source that stays as it is, leaves the index that
`Index.fullScan` gives, and its report. -/
theorem Reaches.fullScan (reached : Reaches catalogue trusted s) (source : Source)
    (trust : trusted source) (free : s.lock = .free) :
    ∃ t, Reaches catalogue trusted t ∧ t.lock = .free ∧ t.index = (s.index.fullScan source).1 ∧
      t.scans (s.index.generation + 1) = .finished (s.index.fullScan source).2 := by
  obtain ⟨t, gathered, unlocked, begun, stage⟩ := reached.gather trust free
  have latest : s.index.beginScan.1 = t.index.generation := by
    rw [begun]
    rfl
  obtain ⟨u, settled, done, index, report⟩ := gathered.settle trust unlocked latest stage
  rw [begun] at index report
  exact ⟨u, settled, done, index, report⟩

end Alone

end Traffic

end RouteAtlas
