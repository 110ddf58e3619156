import RouteAtlas.Proofs.Index.Partition

namespace RouteAtlas

namespace Snapshot

variable {snapshot : Snapshot}

theorem Distinct.get?_eq_some (distinct : snapshot.Distinct) {entry : CacheEntry} {path : Path}
    (member : entry ∈ snapshot.entries) (same : entry.path.same path) :
    snapshot.get? path = some entry := by
  obtain ⟨front, rest, split⟩ := List.append_of_mem member
  rw [Distinct, split, List.pairwise_append] at distinct
  have absent : front.find? (fun other => other.path.same path) = none := by
    rw [List.find?_eq_none]
    intro other earlier found
    exact distinct.2.2 other earlier entry List.mem_cons_self
      (Path.same_trans found (Path.same_symm same))
  simp [get?, split, absent, same]

@[simp] theorem erase_erase (snapshot : Snapshot) (path : Path) :
    (snapshot.erase path).erase path = snapshot.erase path := by
  simp [erase, List.filter_filter]

theorem erase_put (snapshot : Snapshot) (entry : CacheEntry) :
    (snapshot.put entry).erase entry.path = snapshot.erase entry.path := by
  simp [put, erase, List.filter_filter]

end Snapshot

namespace Index

/-- A file that is to have no entry: it does not belong to the source, or no extractor takes what it now
holds. -/
def Unclaimed (index : Index) (source : Source) (path : Path) : Prop :=
  source.accepts path = false ∨
    source.accepts path = true ∧ ∃ modified content, source.modified path = .ok modified ∧
      index.isCurrent path modified = false ∧ source.read path = .ok content ∧
      index.catalogue.endpoints? path content = none

/-- What a call about a changed file can find, what it then makes of the index, and what it answers. -/
inductive Settles (index : Index) (source : Source) (path : Path) :
    Index → Except Fault Outcome → Prop where
  | unstamped {fault : Fault} (accepted : source.accepts path = true)
    (failed : source.modified path = .error fault) :
    Settles index source path index (.error fault)
  | unread {modified : Stamp} {fault : Fault} (accepted : source.accepts path = true)
    (stamp : source.modified path = .ok modified) (outdated : index.isCurrent path modified = false)
    (failed : source.read path = .error fault) :
    Settles index source path index (.error fault)
  | current {modified : Stamp} (accepted : source.accepts path = true)
    (stamp : source.modified path = .ok modified) (current : index.isCurrent path modified = true) :
    Settles index source path index (.ok .unchanged)
  | made {modified : Stamp} {content : Text} {endpoints : List Endpoint}
    (accepted : source.accepts path = true) (stamp : source.modified path = .ok modified)
    (outdated : index.isCurrent path modified = false) (answer : source.read path = .ok content)
    (taken : index.catalogue.endpoints? path content = some endpoints) :
    Settles index source path (index.publish (index.snapshot.put ⟨path, modified, endpoints⟩))
      (.ok .updated)
  | dropped {entry : CacheEntry} (unclaimed : index.Unclaimed source path)
    (known : index.snapshot.get? path = some entry) :
    Settles index source path (index.publish (index.snapshot.erase path)) (.ok .removed)
  | passed (unclaimed : index.Unclaimed source path) (absent : index.snapshot.get? path = none) :
    Settles index source path index (.ok .skipped)

variable {index after : Index} {source : Source} {path : Path} {result : Except Fault Outcome}

theorem settles_remove (unclaimed : index.Unclaimed source path) :
    Settles index source path (index.remove path).1 (.ok (index.remove path).2) := by
  unfold remove
  split
  · exact .dropped unclaimed ‹_›
  · exact .passed unclaimed ‹_›

theorem settles_reread {modified : Stamp} (accepted : source.accepts path = true)
    (stamp : source.modified path = .ok modified) (outdated : index.isCurrent path modified = false) :
    Settles index source path (index.reread path modified (source.read path)).1
      (index.reread path modified (source.read path)).2 := by
  cases answer : source.read path with
  | error fault => exact .unread accepted stamp outdated answer
  | ok content =>
    simp only [reread, refresh]
    split
    · exact .made accepted stamp outdated answer ‹_›
    · exact settles_remove (.inr ⟨accepted, modified, content, stamp, outdated, answer, ‹_›⟩)

theorem settles_revalidate (accepted : source.accepts path = true) :
    Settles index source path (index.revalidate source path).1 (index.revalidate source path).2 := by
  unfold revalidate
  split
  · exact .unstamped accepted ‹_›
  split
  · exact .current accepted ‹_› ‹_›
  · rename_i stamp outdated
    exact settles_reread accepted stamp (Bool.not_eq_true _ ▸ outdated)

theorem settles_changed (index : Index) (source : Source) (path : Path) :
    Settles (index.touch path) source path (index.changed source path).1
      (index.changed source path).2 := by
  simp only [changed]
  split
  · exact settles_revalidate ‹_›
  · rename_i rejected
    exact settles_remove (.inl (Bool.not_eq_true _ ▸ rejected))

theorem changed_of_unclaimed (unclaimed : (index.touch path).Unclaimed source path) :
    index.changed source path =
      (((index.touch path).remove path).1, .ok ((index.touch path).remove path).2) := by
  rcases unclaimed with rejected | ⟨accepted, modified, content, stamp, outdated, answer, untaken⟩
  · simp [changed, rejected]
  · simp only [changed, revalidate, reread, refresh, accepted, stamp, outdated, answer, untaken]
    rfl

theorem Settles.changed_eq (settles : Settles (index.touch path) source path after result) :
    index.changed source path = (after, result) := by
  cases settles with
  | unstamped accepted failed => simp [changed, revalidate, accepted, failed]
  | unread accepted stamp outdated failed =>
    simp [changed, revalidate, reread, accepted, stamp, outdated, failed]
  | current accepted stamp current => simp [changed, revalidate, accepted, stamp, current]
  | made accepted stamp outdated answer taken =>
    simp only [changed, revalidate, reread, refresh, accepted, stamp, outdated, answer, taken]
    rfl
  | dropped unclaimed known => simp only [changed_of_unclaimed unclaimed, remove, known]
  | passed unclaimed absent => simp only [changed_of_unclaimed unclaimed, remove, absent]

@[simp] theorem touch_signals (index : Index) (path : Path) :
    (index.touch path).signals = index.signals := by
  unfold touch
  split <;> rfl

@[simp] theorem touch_version (index : Index) (path : Path) :
    (index.touch path).version = index.version := by
  unfold touch
  split <;> rfl

theorem version_publish (index : Index) (snapshot : Snapshot) :
    (index.publish snapshot).version = index.version + 1 := rfl

theorem rounds_publish (index : Index) (snapshot : Snapshot) :
    (index.publish snapshot).signals.rounds = index.signals.rounds + 1 := rfl

theorem isCurrent_eq_false_iff (distinct : index.snapshot.Distinct) (modified : Stamp) :
    index.isCurrent path modified = false ↔
      ∀ entry ∈ index.snapshot.entries, entry.path.same path → entry.modified ≠ modified := by
  rw [← Bool.not_eq_true, isCurrent_iff]
  constructor
  · intro outdated entry member same stamp
    exact outdated ⟨entry, distinct.get?_eq_some member same, stamp⟩
  · intro others found
    obtain ⟨entry, known, stamp⟩ := found
    exact others entry (Snapshot.mem_of_get? known) (Snapshot.same_of_get? known) stamp

theorem Settles.eq_of_silent (settles : Settles index source path after result)
    (silent : result ≠ .ok .updated ∧ result ≠ .ok .removed) : after = index := by
  cases settles with
  | made | dropped => simp at silent
  | unstamped | unread | current | passed => rfl

theorem Settles.of_updated (settles : Settles index source path after (.ok .updated)) :
    ∃ modified endpoints, source.modified path = .ok modified ∧
      index.isCurrent path modified = false ∧
      after = index.publish (index.snapshot.put ⟨path, modified, endpoints⟩) := by
  cases settles with
  | made accepted stamp outdated answer taken => exact ⟨_, _, stamp, outdated, rfl⟩

theorem Settles.of_removed (settles : Settles index source path after (.ok .removed)) :
    (∃ entry, index.snapshot.get? path = some entry) ∧
      after = index.publish (index.snapshot.erase path) := by
  cases settles with
  | dropped unclaimed known => exact ⟨⟨_, known⟩, rfl⟩

/-- What is published can be told from what was there by a look at the file. -/
theorem Settles.publishes (settles : Settles index source path after result)
    (loud : result = .ok .updated ∨ result = .ok .removed) :
    after.snapshot ≠ index.snapshot ∧ after = index.publish after.snapshot := by
  rcases loud with rfl | rfl
  · obtain ⟨modified, endpoints, _, outdated, rfl⟩ := settles.of_updated
    refine ⟨fun same => ?_, rfl⟩
    have found : index.snapshot.get? path = some ⟨path, modified, endpoints⟩ := by
      rw [← same]
      simp [publish, Snapshot.get?_put]
    simp [isCurrent, found] at outdated
  · obtain ⟨⟨entry, known⟩, rfl⟩ := settles.of_removed
    refine ⟨fun same => ?_, rfl⟩
    rw [← same] at known
    simp [publish, Snapshot.get?_erase] at known

theorem Settles.others (settles : Settles index source path after result) :
    after.snapshot.erase path = index.snapshot.erase path := by
  cases settles with
  | unstamped | unread | current | passed => rfl
  | made => exact Snapshot.erase_put ..
  | dropped => exact Snapshot.erase_erase ..

theorem Settles.error_iff (settles : Settles index source path after result) (fault : Fault) :
    result = .error fault ↔ source.accepts path = true ∧
      (source.modified path = .error fault ∨ ∃ modified, source.modified path = .ok modified ∧
        source.read path = .error fault ∧ index.isCurrent path modified = false) := by
  cases settles with
  | unstamped accepted failed => simp [accepted, failed]
  | unread accepted stamp outdated failed => simp [accepted, stamp, outdated, failed]
  | current accepted stamp current => simp [stamp, current]
  | made accepted stamp outdated answer taken => simp [stamp, answer]
  | dropped unclaimed known | passed unclaimed absent =>
    rcases unclaimed with rejected | ⟨_, _, _, stamp, _, answer, _⟩
    · simp [rejected]
    · simp [stamp, answer]

end Index

namespace Traffic

variable {catalogue : Catalogue} {s : State}

/-- What a call about a changed file answers tells what it has done, whatever the source says of the file
and whoever follows the index. Only a file without a stamp, or one without content whose entry is not of
its stamp, is at fault; then, as with a file that is up to date or has no entry, nothing is published and
nobody is signalled. Any other call publishes once and sends one round of signals. -/
theorem changed_outcome_decides (reached : Reaches catalogue Source.Unrepeated s) (signals : Signals)
    (source : Source) (path : Path) :
    let index : Index := { s.index with signals := signals }
    let after := (index.changed source path).1
    let result := (index.changed source path).2
    (∀ fault, result = .error fault ↔ source.accepts path = true ∧
      (source.modified path = .error fault ∨ ∃ modified, source.modified path = .ok modified ∧
        source.read path = .error fault ∧ ∀ entry ∈ index.snapshot.entries,
          entry.path.same path → entry.modified ≠ modified)) ∧
    ((∃ fault, result = .error fault) ∨ result = .ok .unchanged ∨ result = .ok .skipped →
      after.snapshot = index.snapshot ∧ after.version = index.version ∧
        after.signals = index.signals) ∧
    (result = .ok .updated ∨ result = .ok .removed →
      after.snapshot ≠ index.snapshot ∧ after = (index.touch path).publish after.snapshot ∧
        after.version = index.version + 1 ∧
        after.signals.rounds = index.signals.rounds + 1) ∧
    (result = .ok .updated → ∃ front modified endpoints, source.modified path = .ok modified ∧
      after.snapshot.entries = front ++ [⟨path, modified, endpoints⟩] ∧
      ∀ entry ∈ front, ¬ entry.path.same path) ∧
    (result = .ok .removed → (∃ entry ∈ index.snapshot.entries, entry.path.same path) ∧
      ∀ entry ∈ after.snapshot.entries, ¬ entry.path.same path) ∧
    after.snapshot.entries.filter (fun entry => !entry.path.same path) =
      index.snapshot.entries.filter fun entry => !entry.path.same path := by
  intro index after result
  have settles : Index.Settles (index.touch path) source path after result :=
    Index.settles_changed index source path
  have distinct : (index.touch path).snapshot.Distinct := by
    rw [Index.touch_snapshot]
    exact reached.distinct
  refine ⟨?_, ?_, ?_, ?_, ?_, ?_⟩
  · intro fault
    rw [settles.error_iff fault]
    simp only [Index.isCurrent_eq_false_iff distinct, Index.touch_snapshot]
  · intro silent
    have unchanged : after = index.touch path := by
      apply settles.eq_of_silent
      rcases silent with ⟨fault, failed⟩ | outcome | outcome <;> simp [*]
    simp [unchanged]
  · intro loud
    obtain ⟨differ, published⟩ := settles.publishes loud
    refine ⟨by simpa using differ, published, ?_, ?_⟩
    · rw [published, Index.version_publish, Index.touch_version]
    · rw [published, Index.rounds_publish, Index.touch_signals]
  · intro updated
    rw [updated] at settles
    obtain ⟨modified, endpoints, stamp, _, made⟩ := settles.of_updated
    refine ⟨_, modified, endpoints, stamp, by rw [made]; rfl, ?_⟩
    intro entry member
    simpa using (List.mem_filter.mp member).2
  · intro removed
    rw [removed] at settles
    obtain ⟨⟨entry, known⟩, dropped⟩ := settles.of_removed
    rw [Index.touch_snapshot] at known
    refine ⟨⟨entry, Snapshot.mem_of_get? known, Snapshot.same_of_get? known⟩, ?_⟩
    intro other member
    rw [dropped] at member
    simpa using (List.mem_filter.mp member).2
  · simpa [Snapshot.erase] using settles.others

def deniedFiles : Source where
  list _ := []
  modified _ := .ok 9
  read _ := .error ⟨false, "denied"⟩
  accepts _ := true

theorem changed_outcome_decides_of_deniedFiles :
    ∃ s, Reaches (.ofList [.flask]) Source.Unrepeated s ∧
      let index : Index := { s.index with signals := Signals.empty.subscribe }
      let denied := index.changed deniedFiles ⟨"a.py"⟩
      let changed := index.changed twoFilesLater.source ⟨"a.py"⟩
      denied.2 = .error ⟨false, "denied"⟩ ∧ denied.1.snapshot = index.snapshot ∧
      denied.1.version = index.version ∧ denied.1.signals = index.signals ∧
      changed.2 = .ok .updated ∧ changed.1.version = index.version + 1 ∧
      (∃ front modified endpoints, twoFilesLater.source.modified ⟨"a.py"⟩ = .ok modified ∧
        changed.1.snapshot.entries = front ++ [⟨⟨"a.py"⟩, modified, endpoints⟩] ∧
        ∀ entry ∈ front, ¬ entry.path.same ⟨"a.py"⟩) ∧
      changed.1.snapshot.entries.map (·.path) = [⟨"b.py"⟩, ⟨"a.py"⟩] ∧
      changed.1.signals = ⟨[⟨0, true, true⟩], 1, 1⟩ := by
  have trust : twoFiles.source.Unrepeated := MemoryFiles.unrepeated_source (by decide +kernel)
  have reached : Reaches (.ofList [.flask]) Source.Unrepeated _ := .start
  obtain ⟨s, scanned, _, shown, _⟩ := reached.fullScan twoFiles.source trust rfl
  refine ⟨s, scanned, ?_⟩
  intro index denied changed
  have failed : denied.2 = .error ⟨false, "denied"⟩ := by
    simp only [denied, index, shown]
    decide +kernel
  have updated : changed.2 = .ok .updated := by
    simp only [changed, index, shown]
    decide +kernel
  obtain ⟨_, silent, _⟩ :=
    changed_outcome_decides scanned Signals.empty.subscribe deniedFiles ⟨"a.py"⟩
  obtain ⟨_, _, loud, last, _⟩ :=
    changed_outcome_decides scanned Signals.empty.subscribe twoFilesLater.source ⟨"a.py"⟩
  obtain ⟨same, unpublished, quiet⟩ := silent (.inl ⟨_, failed⟩)
  obtain ⟨_, _, published, _⟩ := loud (.inl updated)
  refine ⟨failed, same, unpublished, quiet, updated, published, last updated, ?_, ?_⟩
  · simp only [changed, index, shown]
    decide +kernel
  · simp only [changed, index, shown]
    decide +kernel

end Traffic

end RouteAtlas
