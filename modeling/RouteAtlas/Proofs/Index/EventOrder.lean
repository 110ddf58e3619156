import RouteAtlas.Index.Event
import RouteAtlas.Proofs.Index.Outcome

namespace RouteAtlas

namespace Snapshot

def entriesOf (snapshot : Snapshot) (path : Path) : List CacheEntry :=
  snapshot.entries.filter fun entry => entry.path.same path

variable {snapshot other : Snapshot} {path : Path}

theorem head?_entriesOf (snapshot : Snapshot) (path : Path) :
    (snapshot.entriesOf path).head? = snapshot.get? path :=
  List.head?_filter

theorem entriesOf_congr (snapshot : Snapshot) {left right : Path} (same : left.same right) :
    snapshot.entriesOf left = snapshot.entriesOf right := by
  simp only [entriesOf, Path.same_congr same]

@[simp] theorem entriesOf_erase (snapshot : Snapshot) (path : Path) :
    (snapshot.erase path).entriesOf path = [] := by
  simp [entriesOf, erase]

@[simp] theorem entriesOf_put (snapshot : Snapshot) (entry : CacheEntry) :
    (snapshot.put entry).entriesOf entry.path = [entry] := by
  have others := entriesOf_erase snapshot entry.path
  rw [entriesOf] at others
  simp [entriesOf, put, others]

theorem entriesOf_erase_of_not_same {erased : Path} (differ : ¬ erased.same path) :
    (snapshot.erase erased).entriesOf path = snapshot.entriesOf path := by
  rw [entriesOf, erase, List.filter_filter]
  apply List.filter_congr
  intro entry _
  by_cases here : entry.path.same path
  · have kept : ¬ entry.path.same erased := fun there =>
      differ (Path.same_trans (Path.same_symm there) here)
    simp [here, kept]
  · simp [here]

theorem entriesOf_put_of_not_same {entry : CacheEntry} (differ : ¬ entry.path.same path) :
    (snapshot.put entry).entriesOf path = snapshot.entriesOf path := by
  have last : [entry].filter (fun entry => entry.path.same path) = [] := by simp [differ]
  rw [entriesOf, put, List.filter_append, last, List.append_nil]
  exact entriesOf_erase_of_not_same differ

/-- The entries of its files, each for itself, make up a snapshot but for their order. -/
theorem perm_of_entriesOf_eq (same : ∀ path, snapshot.entriesOf path = other.entriesOf path) :
    snapshot.entries.Perm other.entries := by
  have own : ∀ (snapshot : Snapshot) (entry : CacheEntry),
      (snapshot.entriesOf entry.path).count entry = snapshot.entries.count entry := by
    intro snapshot entry
    exact List.count_filter (Path.same_refl entry.path)
  rw [List.perm_iff_count]
  intro entry
  rw [← own snapshot, ← own other, same]

end Snapshot

namespace Index

/-- Two indexes that know the same of one file. -/
structure Alike (path : Path) (index other : Index) : Prop where
  catalogue : index.catalogue = other.catalogue
  entries : index.snapshot.entriesOf path = other.snapshot.entriesOf path

variable {index other after : Index} {source : Source} {path : Path}

theorem Alike.get?_eq (alike : Alike path index other) :
    index.snapshot.get? path = other.snapshot.get? path := by
  rw [← Snapshot.head?_entriesOf, ← Snapshot.head?_entriesOf, alike.entries]

theorem Alike.isCurrent_eq (alike : Alike path index other) (modified : Stamp) :
    index.isCurrent path modified = other.isCurrent path modified := by
  rw [isCurrent, isCurrent, alike.get?_eq]

theorem Alike.touch (alike : Alike path index other) :
    Alike path (index.touch path) (other.touch path) := by
  constructor
  · simpa using alike.catalogue
  · simpa using alike.entries

theorem Unclaimed.of_outdated (unclaimed : index.Unclaimed source path)
    (same : index.catalogue = other.catalogue) (outdated : ∀ modified,
      index.isCurrent path modified = false → other.isCurrent path modified = false) :
    other.Unclaimed source path := by
  rcases unclaimed with rejected | ⟨accepted, modified, content, stamp, old, answer, untaken⟩
  · exact .inl rejected
  · rw [same] at untaken
    exact .inr ⟨accepted, modified, content, stamp, outdated modified old, answer, untaken⟩

theorem Alike.settles (alike : Alike path index other) {result : Except Fault Outcome}
    (settles : Settles index source path after result) :
    ∃ last, Settles other source path last result ∧ Alike path after last := by
  have outdated : ∀ modified,
      index.isCurrent path modified = false → other.isCurrent path modified = false := by
    intro modified old
    rwa [← alike.isCurrent_eq modified]
  cases settles with
  | unstamped accepted failed => exact ⟨other, .unstamped accepted failed, alike⟩
  | unread accepted stamp old failed =>
    exact ⟨other, .unread accepted stamp (outdated _ old) failed, alike⟩
  | current accepted stamp current =>
    rw [alike.isCurrent_eq] at current
    exact ⟨other, .current accepted stamp current, alike⟩
  | made accepted stamp old answer taken =>
    rw [alike.catalogue] at taken
    refine ⟨_, .made accepted stamp (outdated _ old) answer taken, alike.catalogue, ?_⟩
    exact (Snapshot.entriesOf_put ..).trans (Snapshot.entriesOf_put ..).symm
  | dropped unclaimed known =>
    rw [alike.get?_eq] at known
    refine ⟨_, .dropped (unclaimed.of_outdated alike.catalogue outdated) known, alike.catalogue, ?_⟩
    exact (Snapshot.entriesOf_erase ..).trans (Snapshot.entriesOf_erase ..).symm
  | passed unclaimed absent =>
    rw [alike.get?_eq] at absent
    exact ⟨other, .passed (unclaimed.of_outdated alike.catalogue outdated) absent, alike⟩

theorem Settles.of_changed {result : Except Fault Outcome}
    (answer : index.changed source path = (after, result)) :
    Settles (index.touch path) source path after result := by
  have settles := settles_changed index source path
  rwa [answer] at settles

theorem Alike.changed (alike : Alike path index other) {result : Except Fault Outcome}
    (answer : index.changed source path = (after, result)) :
    ∃ last, other.changed source path = (last, result) ∧ Alike path after last := by
  obtain ⟨last, settles, still⟩ := alike.touch.settles (.of_changed answer)
  exact ⟨last, settles.changed_eq, still⟩

theorem catalogue_deleted (index : Index) (path : Path) :
    (index.deleted path).1.catalogue = index.catalogue := by
  simpa using (edits_deleted index path).kept.catalogue

theorem catalogue_changed {result : Except Fault Outcome}
    (answer : index.changed source path = (after, result)) : after.catalogue = index.catalogue := by
  have kept := (edits_changed index source path).kept.catalogue
  simpa [answer] using kept

theorem Alike.deleted (alike : Alike path index other) :
    Alike path (index.deleted path).1 (other.deleted path).1 := by
  constructor
  · rw [catalogue_deleted, catalogue_deleted, alike.catalogue]
  · simp [snapshot_deleted]

/-- What an event can find, and what it then makes of the index. -/
inductive Applies (index : Index) (source : Source) : FileEvent → Index → Prop where
  | ignored {event : FileEvent} (unhandled : index.catalogue.handles event.path = false) :
    Applies index source event index
  | removed {path : Path} (handled : index.catalogue.handles path = true) :
    Applies index source (.removed path) (index.deleted path).1
  | settled {path : Path} {after : Index} {outcome : Outcome}
    (handled : index.catalogue.handles path = true)
    (settled : index.changed source path = (after, .ok outcome)) :
    Applies index source (.changed path) after
  | failed {path : Path} {after : Index} {fault : Fault}
    (handled : index.catalogue.handles path = true)
    (failed : index.changed source path = (after, .error fault)) (present : fault.notFound = false) :
    Applies index source (.changed path) after
  | missed {path : Path} {after : Index} {fault : Fault}
    (handled : index.catalogue.handles path = true)
    (failed : index.changed source path = (after, .error fault)) (missing : fault.notFound = true) :
    Applies index source (.changed path) (after.deleted path).1

theorem applies_apply (index : Index) (source : Source) (event : FileEvent) :
    Applies index source event (index.apply source event).1 := by
  unfold apply
  split
  · rename_i handled
    cases event with
    | removed path => exact .removed handled
    | changed path =>
      dsimp only
      split
      · exact .settled handled ‹_›
      · split
        · exact .missed handled ‹_› ‹_›
        · rename_i present
          exact .failed handled ‹_› (Bool.not_eq_true _ ▸ present)
  · rename_i unhandled
    exact .ignored (Bool.not_eq_true _ ▸ unhandled)

theorem Applies.apply_eq {event : FileEvent} (applies : Applies index source event after) :
    (index.apply source event).1 = after := by
  cases applies with
  | ignored unhandled => simp [apply, unhandled]
  | removed handled => simp [apply, FileEvent.path, handled]
  | settled handled settled => simp [apply, FileEvent.path, handled, settled]
  | failed handled failed present => simp [apply, FileEvent.path, handled, failed, present]
  | missed handled failed missing => simp [apply, FileEvent.path, handled, failed, missing]

theorem Alike.applies {event : FileEvent} (alike : Alike path index other)
    (here : event.path = path) (applies : Applies index source event after) :
    ∃ last, Applies other source event last ∧ Alike path after last := by
  have same := alike.catalogue
  cases applies with
  | ignored unhandled =>
    rw [same] at unhandled
    exact ⟨other, .ignored unhandled, alike⟩
  | removed handled =>
    cases here
    rw [same] at handled
    exact ⟨_, .removed handled, alike.deleted⟩
  | settled handled settled =>
    cases here
    rw [same] at handled
    obtain ⟨last, answer, still⟩ := alike.changed settled
    exact ⟨last, .settled handled answer, still⟩
  | failed handled failed present =>
    cases here
    rw [same] at handled
    obtain ⟨last, answer, still⟩ := alike.changed failed
    exact ⟨last, .failed handled answer present, still⟩
  | missed handled failed missing =>
    cases here
    rw [same] at handled
    obtain ⟨last, answer, still⟩ := alike.changed failed
    exact ⟨_, .missed handled answer missing, still.deleted⟩

theorem Alike.apply {event : FileEvent} (alike : Alike event.path index other) (source : Source) :
    Alike event.path (index.apply source event).1 (other.apply source event).1 := by
  obtain ⟨last, applies, still⟩ := alike.applies rfl (applies_apply index source event)
  rwa [applies.apply_eq]

theorem Edits.alike_of_not_same {edited : Path} (edits : Edits (index.touch edited) edited after)
    (differ : ¬ edited.same path) : Alike path after index := by
  constructor
  · simpa using edits.kept.catalogue
  · rw [← touch_snapshot index edited]
    cases edits with
    | same => rfl
    | dropped => exact Snapshot.entriesOf_erase_of_not_same differ
    | made => exact Snapshot.entriesOf_put_of_not_same differ

theorem Alike.trans {third : Index} (left : Alike path index other) (right : Alike path other third) :
    Alike path index third :=
  ⟨left.catalogue.trans right.catalogue, left.entries.trans right.entries⟩

theorem alike_changed_of_not_same {changed : Path} {result : Except Fault Outcome}
    (answer : index.changed source changed = (after, result)) (differ : ¬ changed.same path) :
    Alike path after index := by
  have edits := edits_changed index source changed
  rw [answer] at edits
  exact edits.alike_of_not_same differ

theorem alike_apply_of_not_same {event : FileEvent} (differ : ¬ event.path.same path) :
    Alike path (index.apply source event).1 index := by
  have applies := applies_apply index source event
  generalize (index.apply source event).1 = after at applies
  cases applies with
  | ignored => exact ⟨rfl, rfl⟩
  | removed => exact (edits_deleted _ _).alike_of_not_same differ
  | settled handled settled => exact alike_changed_of_not_same settled differ
  | failed handled failed present => exact alike_changed_of_not_same failed differ
  | missed handled failed missing =>
    have first := alike_changed_of_not_same failed differ
    exact ((edits_deleted _ _).alike_of_not_same differ).trans first

theorem isCurrent_of_absent (absent : index.snapshot.get? path = none) (modified : Stamp) :
    index.isCurrent path modified = false := by
  simp [isCurrent, absent]

@[simp] theorem isCurrent_touch (index : Index) (touched path : Path) (modified : Stamp) :
    (index.touch touched).isCurrent path modified = index.isCurrent path modified := by
  simp [isCurrent]

/-- A file that was looked at is up to date, or has no entry and gets none. -/
theorem Settles.again {outcome : Outcome} (settles : Settles index source path after (.ok outcome)) :
    ∃ again, (again = .unchanged ∨ again = .skipped) ∧
      Settles (after.touch path) source path (after.touch path) (.ok again) := by
  cases settles with
  | current accepted stamp current =>
    exact ⟨.unchanged, .inl rfl, .current accepted stamp (by simpa using current)⟩
  | made accepted stamp outdated answer taken =>
    refine ⟨.unchanged, .inl rfl, .current accepted stamp ?_⟩
    simp [isCurrent, publish, Snapshot.get?_put]
  | dropped unclaimed known =>
    have absent : ((index.publish (index.snapshot.erase path)).touch path).snapshot.get? path =
        none := by
      simp [publish, Snapshot.get?_erase]
    have still := unclaimed.of_outdated (by simp [publish]) fun modified _ =>
      isCurrent_of_absent absent modified
    exact ⟨.skipped, .inr rfl, .passed still absent⟩
  | passed unclaimed absent =>
    have still := unclaimed.of_outdated (touch_catalogue index path).symm (by simp)
    exact ⟨.skipped, .inr rfl, .passed still (by simpa using absent)⟩

theorem Settles.fault_again {fault : Fault} (settles : Settles index source path after (.error fault))
    (outdated : ∀ modified,
      index.isCurrent path modified = false → other.isCurrent path modified = false) :
    Settles other source path other (.error fault) := by
  cases settles with
  | unstamped accepted failed => exact .unstamped accepted failed
  | unread accepted stamp old failed => exact .unread accepted stamp (outdated _ old) failed

theorem changed_again {outcome : Outcome}
    (settled : index.changed source path = (after, .ok outcome)) :
    ∃ again, (again = .unchanged ∨ again = .skipped) ∧
      after.changed source path = (after.touch path, .ok again) := by
  obtain ⟨again, idle, settles⟩ := (Settles.of_changed settled).again
  exact ⟨again, idle, settles.changed_eq⟩

theorem changed_of_error {fault : Fault}
    (failed : index.changed source path = (after, .error fault)) : after = index.touch path :=
  (Settles.of_changed failed).eq_of_silent (by simp)

theorem fault_again {fault : Fault} (failed : index.changed source path = (after, .error fault))
    (outdated : ∀ modified,
      index.isCurrent path modified = false → other.isCurrent path modified = false) :
    other.changed source path = (other.touch path, .error fault) := by
  have settles : Settles (other.touch path) source path (other.touch path) (.error fault) :=
    (Settles.of_changed failed).fault_again (by simpa using outdated)
  exact settles.changed_eq

theorem catalogue_apply (index : Index) (source : Source) (event : FileEvent) :
    (index.apply source event).1.catalogue = index.catalogue := by
  have applies := applies_apply index source event
  generalize (index.apply source event).1 = after at applies
  cases applies with
  | ignored => rfl
  | removed => exact catalogue_deleted index _
  | settled handled settled => exact catalogue_changed settled
  | failed handled failed present => exact catalogue_changed failed
  | missed handled failed missing => exact (catalogue_deleted _ _).trans (catalogue_changed failed)

/-- An event that comes again has nothing left to do. -/
theorem snapshot_apply_apply (index : Index) (source : Source) (event : FileEvent) :
    ((index.apply source event).1.apply source event).1.snapshot =
      (index.apply source event).1.snapshot := by
  have fixed := catalogue_apply index source event
  have applies := applies_apply index source event
  generalize (index.apply source event).1 = after at applies fixed
  cases applies with
  | ignored unhandled => rw [(Applies.ignored unhandled).apply_eq]
  | removed handled =>
    rw [← fixed] at handled
    rw [(Applies.removed handled).apply_eq, snapshot_deleted, snapshot_deleted, Snapshot.erase_erase]
  | settled handled settled =>
    obtain ⟨again, _, answer⟩ := changed_again settled
    rw [← fixed] at handled
    rw [(Applies.settled handled answer).apply_eq, touch_snapshot]
  | @failed path after fault handled failed present =>
    have unchanged := changed_of_error failed
    have outdated : ∀ modified,
        index.isCurrent path modified = false → after.isCurrent path modified = false := by
      simp [unchanged]
    have answer := fault_again failed outdated
    rw [← fixed] at handled
    rw [(Applies.failed handled answer present).apply_eq, touch_snapshot]
  | @missed path after fault handled failed missing =>
    -- without an entry no stamp is current, so the look ends in the same fault
    have absent : (after.deleted path).1.snapshot.get? path = none := by
      simp [snapshot_deleted, Snapshot.get?_erase]
    have answer := fault_again failed fun modified _ => isCurrent_of_absent absent modified
    rw [← fixed] at handled
    rw [(Applies.missed handled answer missing).apply_eq, snapshot_deleted, touch_snapshot]
    exact Snapshot.erase_of_get?_eq_none absent

def applyAll (index : Index) (source : Source) (events : List FileEvent) : Index :=
  events.foldl (fun index event => (index.apply source event).1) index

variable {events others : List FileEvent} {event : FileEvent}

theorem applyAll_concat (index : Index) (source : Source) (events : List FileEvent)
    (event : FileEvent) :
    index.applyAll source (events ++ [event]) =
      ((index.applyAll source events).apply source event).1 := by
  simp [applyAll]

theorem alike_applyAll_of_absent (index : Index) (source : Source)
    (absent : ∀ event ∈ events, ¬ event.path.same path) :
    Alike path (index.applyAll source events) index := by
  induction events using List.reverseRecOn with
  | nil => exact ⟨rfl, rfl⟩
  | append_singleton events last ih =>
    simp only [List.mem_append, List.mem_singleton] at absent
    rw [applyAll_concat]
    have known := ih fun event member => absent event (.inl member)
    exact (alike_apply_of_not_same (absent last (.inr rfl))).trans known

theorem alike_applyAll_of_mem (index : Index) (source : Source) (member : event ∈ events)
    (single : ∀ other ∈ events, other.path.same event.path → other = event) :
    Alike event.path (index.applyAll source events) (index.apply source event).1 := by
  induction events using List.reverseRecOn with
  | nil => cases member
  | append_singleton events last ih =>
    rw [applyAll_concat]
    have earlier : ∀ other ∈ events, other.path.same event.path → other = event :=
      fun other before => single other (List.mem_append_left _ before)
    by_cases here : last.path.same event.path
    · have same : last = event := single last (by simp) here
      rw [same]
      by_cases before : event ∈ events
      · -- the event has come before, so it finds its own work
        have known := (ih before earlier).apply source
        refine known.trans ⟨catalogue_apply .., ?_⟩
        rw [snapshot_apply_apply]
      · -- up to here nothing was about its file
        have absent : ∀ other ∈ events, ¬ other.path.same event.path := by
          intro other listed again
          rw [earlier other listed again] at listed
          exact before listed
        exact (alike_applyAll_of_absent index source absent).apply source
    · have before : event ∈ events := by
        rcases List.mem_append.mp member with before | after
        · exact before
        · rw [List.mem_singleton.mp after] at here
          exact absurd (Path.same_refl _) here
      exact (alike_apply_of_not_same here).trans (ih before earlier)

theorem perm_entries_applyAll (members : ∀ event, event ∈ events ↔ event ∈ others)
    (single : ∀ event ∈ events, ∀ other ∈ events, event.path.same other.path → event = other) :
    (index.applyAll source events).snapshot.entries.Perm
      (index.applyAll source others).snapshot.entries := by
  apply Snapshot.perm_of_entriesOf_eq
  intro path
  by_cases here : ∃ event ∈ events, event.path.same path
  · obtain ⟨event, member, same⟩ := here
    have one : ∀ other ∈ events, other.path.same event.path → other = event :=
      fun other listed again => single other listed event member again
    have first := alike_applyAll_of_mem index source member one
    have second := alike_applyAll_of_mem index source ((members event).mp member)
      fun other listed => one other ((members other).mpr listed)
    rw [← Snapshot.entriesOf_congr _ same, ← Snapshot.entriesOf_congr _ same, first.entries,
      second.entries]
  · have absent : ∀ event ∈ events, ¬ event.path.same path :=
      fun event listed same => here ⟨event, listed, same⟩
    have first := alike_applyAll_of_absent index source absent
    have second := alike_applyAll_of_absent index source fun event listed =>
      absent event ((members event).mpr listed)
    rw [first.entries, second.entries]

/-- While the files stay as they are, a look at a file that has been looked at finds nothing to do, and
events that are at most one for a file lead to the same entries, in whichever order and however often
they come. -/
theorem settled_once_for_all (index : Index) (source : Source) :
    (∀ path outcome, (index.changed source path).2 = .ok outcome →
      let after := (index.changed source path).1
      ((after.changed source path).2 = .ok .unchanged ∨
        (after.changed source path).2 = .ok .skipped) ∧
      (after.changed source path).1.snapshot = after.snapshot) ∧
    ∀ events others : List FileEvent, (∀ event, event ∈ events ↔ event ∈ others) →
      (∀ event ∈ events, ∀ other ∈ events, event.path.same other.path → event = other) →
      (index.applyAll source events).snapshot.entries.Perm
        (index.applyAll source others).snapshot.entries := by
  constructor
  · intro path outcome settled after
    obtain ⟨again, idle, answer⟩ := changed_again (Prod.ext rfl settled)
    rw [answer]
    rcases idle with rfl | rfl
    · exact ⟨.inl rfl, touch_snapshot after path⟩
    · exact ⟨.inr rfl, touch_snapshot after path⟩
  · intro events others members single
    exact perm_entries_applyAll members single

def renewedFiles : MemoryFiles :=
  Traffic.twoFilesLater.write ⟨"b.py"⟩ "import flask\n@b.route('/e')"

def renewals : List FileEvent := [.changed ⟨"a.py"⟩, .changed ⟨"b.py"⟩, .changed ⟨"c.py"⟩]

def lateRenewals : List FileEvent :=
  [.changed ⟨"b.py"⟩, .changed ⟨"c.py"⟩, .changed ⟨"a.py"⟩, .changed ⟨"b.py"⟩]

theorem settled_once_for_all_of_renewedFiles :
    let index := ((Index.new (.ofList [.flask])).fullScan Traffic.twoFiles.source).1
    let after := (index.changed renewedFiles.source ⟨"a.py"⟩).1
    (index.changed renewedFiles.source ⟨"a.py"⟩).2 = .ok .updated ∧
    (after.changed renewedFiles.source ⟨"a.py"⟩).1.snapshot = after.snapshot ∧
    (index.applyAll renewedFiles.source renewals).snapshot.entries.Perm
      (index.applyAll renewedFiles.source lateRenewals).snapshot.entries ∧
    (index.applyAll renewedFiles.source renewals).endpoints.map (·.route) =
      ["/d".toList, "/e".toList] ∧
    (index.applyAll renewedFiles.source lateRenewals).endpoints.map (·.route) =
      ["/e".toList, "/d".toList] := by
  intro index after
  obtain ⟨again, order⟩ := settled_once_for_all index renewedFiles.source
  have updated : (index.changed renewedFiles.source ⟨"a.py"⟩).2 = .ok .updated := by
    decide +kernel
  have late : ∀ event ∈ renewals, event ∈ lateRenewals := by decide
  have early : ∀ event ∈ lateRenewals, event ∈ renewals := by decide
  have members : ∀ event, event ∈ renewals ↔ event ∈ lateRenewals :=
    fun event => ⟨late event, early event⟩
  have single : ∀ event ∈ renewals, ∀ other ∈ renewals,
      event.path.same other.path → event = other := by
    decide +kernel
  refine ⟨updated, (again _ _ updated).2, order _ _ members single, ?_, ?_⟩
  · decide +kernel
  · decide +kernel

end Index

end RouteAtlas
