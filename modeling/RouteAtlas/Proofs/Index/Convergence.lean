import RouteAtlas.Proofs.Index.Coherence
import RouteAtlas.Proofs.Index.Surveys

namespace RouteAtlas.Interleaving

def Action.publishes (scan : Nat) : Action → Bool
  | .publish other => other == scan
  | _ => false

/-- What happened after a scan published, the latest first. -/
def sincePublished (scan : Nat) (history : List Action) : List Action :=
  history.takeWhile fun action => !action.publishes scan

/-- No event has dropped the entry of a file that is there, after the file last changed, by reporting
it as removed. -/
def Spared (path : Path) (history : List Action) (s : System) : Prop :=
  ∀ file, s.memory.file? path = some file → ∀ ticket other,
    .delete ticket other false ∈ since path history → ¬ other.same path

/-- After a scan published, no event has dropped the entry of a file that is there because it had
found no file before. -/
def Undropped (path : Path) (scan : Nat) (history : List Action) (s : System) : Prop :=
  ∀ file, s.memory.file? path = some file → ∀ ticket other,
    .delete ticket other true ∈ sincePublished scan history → ¬ other.same path

/-- Someone has looked at a file after it last changed, and is done. -/
def Relied (path : Path) (history : List Action) (s : System) : Prop :=
  (∃ ticket, Fresh path history ticket ∧ s.calls ticket = some .ended) ∨
    ∃ scan, .list scan ∈ since path history ∧ .publish scan ∈ history

def Due (path : Path) (history : List Action) (s : System) : Prop :=
  Spared path history s ∧
    ((∃ ticket, Fresh path history ticket ∧ s.calls ticket = some .ended) ∨
      ∃ scan, .list scan ∈ since path history ∧ .publish scan ∈ history ∧
        Undropped path scan history s)

def Lock.queue : Lock → List Path
  | .visiting (.replay _ queue) path _ => path :: queue
  | _ => []

@[simp] theorem queue_replaying (scan : Nat) (paths : List Path) :
    (Lock.replaying scan paths).queue = paths := by
  cases paths <;> rfl

/-- The index holds for one file what it ought to hold, or the lock is with a scan that will see to
it. -/
structure Reflected (catalogue : Catalogue) (path : Path) (history : List Action) (s : System) :
    Prop where
  visit : ∀ {visitor other modified}, s.lock = .visiting visitor other (some modified) →
    other.same path → s.memory.source.modified path = .ok modified ∨
      ¬ Relied path history s ∧ ∀ ticket watched, visitor = .call ticket watched →
        ¬ Fresh path history ticket
  due : Due path history s →
    Mirrors catalogue path (s.memory.file? path) (s.index.snapshot.get? path) ∨
      ∃ other ∈ s.lock.queue, other.same path

section Due

variable {path : Path} {history : List Action} {s t : System} {action : Action}

theorem Due.relied (due : Due path history s) : Relied path history s := by
  rcases due.2 with call | ⟨scan, listed, published, _⟩
  · exact .inl call
  · exact .inr ⟨scan, listed, published⟩

theorem not_relied_of_changes (change : action.changes path) :
    ¬ Relied path (action :: history) s := by
  rintro (⟨ticket, fresh, _⟩ | ⟨scan, listed, _⟩)
  · exact not_fresh_of_changes change ticket fresh
  · simp [since_of_changes change] at listed

section Before

variable (quiet : action.changes path = false)
  (unpublished : ∀ scan, action ≠ .publish scan)
  (calls : ∀ ticket, Fresh path (action :: history) ticket → t.calls ticket = some .ended →
    Fresh path history ticket ∧ s.calls ticket = some .ended)
  (lists : ∀ scan, .list scan ∈ since path (action :: history) → .publish scan ∈ history →
    .list scan ∈ since path history)
include unpublished calls lists

/-- A step that completes nothing: whatever was relied upon was so before. -/
theorem Relied.of_cons (relied : Relied path (action :: history) t) : Relied path history s := by
  rcases relied with ⟨ticket, fresh, ended⟩ | ⟨scan, listed, published⟩
  · exact .inl ⟨ticket, calls ticket fresh ended⟩
  · replace published := (List.mem_cons.mp published).resolve_left (unpublished scan).symm
    exact .inr ⟨scan, lists scan listed published, published⟩

include quiet in
theorem Due.of_cons (file : t.memory.file? path = s.memory.file? path)
    (due : Due path (action :: history) t) : Due path history s := by
  obtain ⟨spared, cause⟩ := due
  constructor
  · intro present found ticket other member
    rw [← file] at found
    refine spared present found ticket other ?_
    rw [since_cons quiet]
    exact List.mem_cons_of_mem action member
  · rcases cause with ⟨ticket, fresh, ended⟩ | ⟨scan, listed, published, kept⟩
    · exact .inl ⟨ticket, calls ticket fresh ended⟩
    · replace published := (List.mem_cons.mp published).resolve_left (unpublished scan).symm
      refine .inr ⟨scan, lists scan listed published, published, ?_⟩
      intro present found ticket other member
      rw [← file] at found
      refine kept present found ticket other ?_
      have other : action.publishes scan = false := by
        cases action <;> simp [Action.publishes]
        rintro rfl
        exact unpublished _ rfl
      simp only [sincePublished, List.takeWhile_cons, other, Bool.not_false, if_true]
      exact List.mem_cons_of_mem action member

end Before

end Due

namespace Reflected

variable {catalogue : Catalogue} {path : Path} {history : List Action} {s t : System}
  {action : Action}

theorem initial : Reflected catalogue path [] (.initial catalogue) := by
  constructor
  · simp [System.initial]
  · rintro ⟨_, ⟨ticket, ⟨event, member, _⟩, _⟩ | ⟨scan, listed, _⟩⟩
    · cases member
    · cases listed

theorem of_changes (change : action.changes path) : Reflected catalogue path (action :: history) t := by
  constructor
  · intro visitor other modified _ _
    exact .inr ⟨not_relied_of_changes change, fun ticket _ _ => not_fresh_of_changes change ticket⟩
  · exact fun due => absurd due.relied (not_relied_of_changes change)

theorem modified_eq_ok_of_file?_eq (file : t.memory.file? path = s.memory.file? path) {modified : Stamp}
    (stat : s.memory.source.modified path = .ok modified) :
    t.memory.source.modified path = .ok modified := by
  rw [MemoryFiles.modified_eq_ok_iff] at stat ⊢
  rwa [file]

theorem of_entry_lock_eq (reflected : Reflected catalogue path history s)
    (quiet : action.changes path = false) (unpublished : ∀ scan, action ≠ .publish scan)
    (calls : ∀ ticket, Fresh path (action :: history) ticket → t.calls ticket = some .ended →
      Fresh path history ticket ∧ s.calls ticket = some .ended)
    (lists : ∀ scan, .list scan ∈ since path (action :: history) → .publish scan ∈ history →
      .list scan ∈ since path history)
    (file : t.memory.file? path = s.memory.file? path)
    (entry : t.index.snapshot.get? path = s.index.snapshot.get? path) (lock : t.lock = s.lock)
    (visitor : ∀ {ticket watched other stamp?},
      s.lock = .visiting (.call ticket watched) other stamp? → Fresh path (action :: history) ticket →
        Fresh path history ticket) :
    Reflected catalogue path (action :: history) t := by
  constructor
  · intro holder other modified held same
    rw [lock] at held
    rcases reflected.visit held same with current | ⟨unused, stranger⟩
    · exact .inl (modified_eq_ok_of_file?_eq file current)
    · refine .inr ⟨fun relied => unused (relied.of_cons unpublished calls lists), ?_⟩
      rintro ticket watched rfl fresh
      exact stranger ticket watched rfl (visitor held fresh)
  · intro due
    rw [file, entry, lock]
    exact reflected.due (due.of_cons quiet unpublished calls lists file)

theorem of_queue_subset (reflected : Reflected catalogue path history s)
    (quiet : action.changes path = false) (unpublished : ∀ scan, action ≠ .publish scan)
    (calls : ∀ ticket, Fresh path (action :: history) ticket → t.calls ticket = some .ended →
      Fresh path history ticket ∧ s.calls ticket = some .ended)
    (lists : ∀ scan, .list scan ∈ since path (action :: history) → .publish scan ∈ history →
      .list scan ∈ since path history)
    (file : t.memory.file? path = s.memory.file? path)
    (entry : t.index.snapshot.get? path = s.index.snapshot.get? path)
    (queue : ∀ other ∈ s.lock.queue, other.same path → other ∈ t.lock.queue)
    (unstamped : ∀ {visitor other modified}, t.lock ≠ .visiting visitor other (some modified)) :
    Reflected catalogue path (action :: history) t := by
  constructor
  · exact fun held => absurd held unstamped
  · intro due
    rw [file, entry]
    rcases reflected.due (due.of_cons quiet unpublished calls lists file) with right | ⟨other, member, same⟩
    · exact .inl right
    · exact .inr ⟨other, queue other member same, same⟩

theorem delete (reflected : Reflected catalogue path history s) (traced : Traced history s)
    (attended : Attended path history s) {ticket : Nat} {place : Path} {missing : Bool}
    (free : s.lock = .free) (state : s.calls ticket = some (.deleting place missing)) :
    Reflected catalogue path (.delete ticket place missing :: history)
      ({ s with index := (s.index.deleted place).1 }.setCall ticket .ended) := by
  have quiet : Action.changes path (.delete ticket place missing) = false := rfl
  have lookup := Index.get?_remove (s.index.touch place) place path
  by_cases same : place.same path
  · constructor
    · intro visitor other modified held
      rw [show s.lock = _ from held] at free
      cases free
    · intro due
      cases found : s.memory.file? path with
      | none =>
        rw [if_pos same] at lookup
        refine .inl ?_
        change Mirrors catalogue path (s.memory.file? path) _
        rw [found]
        exact lookup
      | some file =>
        exfalso
        cases missing with
        | false => exact due.1 file found ticket place (by simp [since_cons quiet]) same
        | true =>
          rcases due.2 with ⟨done, fresh, _⟩ | ⟨scan, _, _, kept⟩
          · -- the call began after the last change, so it found no file since then
            rw [Attended.fresh_cons_iff (by simp) quiet] at fresh
            obtain ⟨request, begun⟩ := attended.alone fresh state (by simp)
            have absent := attended.missing begun state same
            rw [found] at absent
            cases absent
          · exact kept file found ticket place (by simp [sincePublished, Action.publishes]) same
  · rw [if_neg same] at lookup
    refine reflected.of_queue_subset quiet (by simp) ?_ ?_ rfl ?_ ?_ ?_
    · intro other fresh ended
      rw [Attended.fresh_cons_iff (by simp) quiet] at fresh
      refine ⟨fresh, ?_⟩
      have differ : other ≠ ticket := by
        rintro rfl
        obtain ⟨event, member, about⟩ := fresh
        rw [traced.deleting (mem_of_mem_since member) state] at same
        exact same about
      rwa [System.setCall_of_ne _ _ differ] at ended
    · exact fun scan listed _ => (Surveyed.list_mem_since_iff quiet (by simp)).mp listed
    · exact lookup.trans (by simp)
    · exact fun other member _ => member
    · intro visitor other modified held
      rw [show s.lock = _ from held] at free
      cases free

theorem publish (surveyed : Surveyed catalogue path history s)
    (attended : Attended path history s) {scan : Nat} {results : List FileResult}
    (locked : s.lock = .publishing scan) (stage : s.scans scan = .closing results) :
    Reflected catalogue path (.publish scan :: history)
      ({ s with
        index := s.index.replaceEntries (results.filterMap FileResult.taken?)
        lock := .replaying scan s.index.touched }.setScan scan (.published results)) := by
  have quiet : Action.changes path (.publish scan) = false := rfl
  constructor
  · exact fun held => absurd held (Lock.replaying_ne_stamped scan _)
  · intro due
    by_cases listed : .list scan ∈ since path history
    · exact .inl (surveyed.closing listed stage)
    · have noted := surveyed.stale (.inl locked) listed
      rcases due.2 with ⟨ticket, fresh, ended⟩ | ⟨other, known, published, _⟩
      · rw [Attended.fresh_cons_iff (by simp) quiet] at fresh
        obtain ⟨other, member, same⟩ := noted.2 (attended.ended fresh ended)
        exact .inr ⟨other, by simpa [System.setScan] using member, same⟩
      · rw [Surveyed.list_mem_since_iff quiet (by simp)] at known
        rcases List.mem_cons.mp published with here | before
        · cases here
          exact absurd known listed
        · exact absurd before (noted.1 other known)

theorem list_mem_since_of_not_isNotice (quiet : action.changes path = false)
    (plain : action.isNotice = false) {scan : Nat}
    (listed : .list scan ∈ since path (action :: history)) : .list scan ∈ since path history := by
  refine (Surveyed.list_mem_since_iff quiet ?_).mp listed
  rintro other rfl
  cases plain

theorem ne_publish_of_not_isNotice (plain : action.isNotice = false) (scan : Nat) :
    action ≠ .publish scan := by
  rintro rfl
  cases plain

section Visit

variable (reflected : Reflected catalogue path history s) (traced : Traced history s)
  (quiet : action.changes path = false) (silent : ∀ ticket request, action ≠ .call ticket request)
  (plain : action.isNotice = false) {visitor : Visitor} {place : Path} {stamp? : Option Stamp}
  (locked : s.lock = .visiting visitor place stamp?)
include reflected traced quiet silent plain locked

theorem endVisit_of_not_same {result : Index × Except Fault Outcome} (elsewhere : ¬ place.same path)
    (entry : result.1.snapshot.get? path = s.index.snapshot.get? path) :
    Reflected catalogue path (action :: history) (s.endVisit visitor place result) := by
  refine reflected.of_queue_subset quiet (ne_publish_of_not_isNotice plain) ?_
    (fun scan listed _ => list_mem_since_of_not_isNotice quiet plain listed) (by simp) ?_ ?_ ?_
  · intro ticket fresh ended
    rw [Attended.fresh_cons_iff silent quiet] at fresh
    refine ⟨fresh, ?_⟩
    cases visitor with
    | replay scan queue => exact ended
    | call mover watched =>
      have differ : ticket ≠ mover := by
        rintro rfl
        obtain ⟨event, member, about⟩ := fresh
        rw [(traced.visiting (mem_of_mem_since member) locked).1] at elsewhere
        exact elsewhere about
      rwa [System.endVisit, System.setCall_of_ne _ _ differ] at ended
  · cases visitor with
    | call mover watched => exact entry
    | replay scan queue =>
      obtain ⟨index, fault | outcome⟩ := result
      · simp only [System.endVisit, Index.afterReplay]
        split
        · rw [Index.get?_remove, if_neg elsewhere]
          exact entry
        · exact entry
      · exact entry
  · intro other member same
    rw [locked] at member
    cases visitor with
    | call mover watched => cases member
    | replay scan queue =>
      rcases List.mem_cons.mp member with rfl | member
      · exact absurd same elsewhere
      · simpa [System.endVisit] using member
  · cases visitor with
    | call mover watched => simp [System.endVisit, System.setCall]
    | replay scan queue => exact Lock.replaying_ne_stamped scan queue

end Visit

theorem of_mirrors (unstamped : ∀ {visitor other modified},
      t.lock ≠ .visiting visitor other (some modified))
    (right : Due path (action :: history) t →
      Mirrors catalogue path (t.memory.file? path) (t.index.snapshot.get? path)) :
    Reflected catalogue path (action :: history) t :=
  ⟨fun held => absurd held unstamped, fun due => .inl (right due)⟩

theorem lock_endVisit_ne_stamped (visitor : Visitor) (place : Path)
    (result : Index × Except Fault Outcome) {other : Visitor} {path : Path} {modified : Stamp} :
    (s.endVisit visitor place result).lock ≠ .visiting other path (some modified) := by
  cases visitor with
  | call ticket watched => simp [System.endVisit, System.setCall]
  | replay scan queue => exact Lock.replaying_ne_stamped scan queue

@[simp] theorem endVisit_index_ok (visitor : Visitor) (place : Path) (index : Index)
    (outcome : Outcome) : (s.endVisit visitor place (index, .ok outcome)).index = index := by
  cases visitor <;> rfl

/-- A missing file has no entry after a replay; after the look of a call it is as it was, and the call
goes on to drop the entry. -/
theorem glance_missing (reflected : Reflected catalogue path history s) (traced : Traced history s)
    {visitor : Visitor} {place : Path} {fault : Fault}
    (locked : s.lock = .visiting visitor place none) (same : place.same path)
    (stat : s.memory.source.modified place = .error fault) :
    Reflected catalogue path (.glance :: history)
      (s.endVisit visitor place (s.index, .error fault)) := by
  have quiet : Action.changes path .glance = false := rfl
  obtain ⟨absent, rfl⟩ := (MemoryFiles.modified_eq_error_iff _ _ _).mp stat
  rw [MemoryFiles.file?_congr _ same] at absent
  cases visitor with
  | replay scan queue =>
    refine of_mirrors (lock_endVisit_ne_stamped _ _ _) (fun _ => ?_)
    simp only [System.endVisit, Index.afterReplay, if_true, absent]
    rw [Index.get?_remove, if_pos same]
    rfl
  | call ticket watched =>
    refine reflected.of_queue_subset quiet (by simp) ?_
      (fun scan listed _ => (Surveyed.list_mem_since_iff quiet (by simp)).mp listed) rfl rfl ?_
      (lock_endVisit_ne_stamped _ _ _)
    · intro other fresh ended
      rw [Attended.fresh_cons_iff (by simp) quiet] at fresh
      refine ⟨fresh, ?_⟩
      by_cases here : other = ticket
      · subst here
        obtain ⟨event, member, _⟩ := fresh
        have watching := (traced.visiting (mem_of_mem_since member) locked).2
        simp [System.endVisit, Call.afterLook, watching] at ended
      · rwa [System.endVisit, System.setCall_of_ne _ _ here] at ended
    · intro other member
      rw [locked] at member
      cases member

theorem glance (reflected : Reflected catalogue path history s) (traced : Traced history s)
    {visitor : Visitor} {place : Path} (locked : s.lock = .visiting visitor place none) :
    Reflected catalogue path (.glance :: history) (s.glance visitor place) := by
  have quiet : Action.changes path .glance = false := rfl
  rcases s.glance_cases visitor place with
    ⟨fault, stat, ends⟩ | ⟨modified, stat, current, ends⟩ | ⟨modified, stat, _, ends⟩
  · rw [ends]
    by_cases same : place.same path
    · exact reflected.glance_missing traced locked same stat
    · exact reflected.endVisit_of_not_same traced quiet (by simp) rfl locked same rfl
  · rw [ends]
    by_cases same : place.same path
    · refine of_mirrors (lock_endVisit_ne_stamped _ _ _) (fun _ => ?_)
      obtain ⟨file, found, stamp⟩ := (MemoryFiles.modified_eq_ok_iff _ _ _).mp stat
      obtain ⟨entry, held, cached⟩ := (Index.isCurrent_iff _ _ _).mp current
      rw [MemoryFiles.file?_congr _ same] at found
      rw [Snapshot.get?_congr _ same] at held
      simp only [System.endVisit_memory, endVisit_index_ok, found, held]
      exact cached.trans stamp.symm
    · exact reflected.endVisit_of_not_same traced quiet (by simp) rfl locked same rfl
  · rw [ends]
    constructor
    · intro other spot taken held same
      cases held
      rw [MemoryFiles.modified_eq_ok_iff, MemoryFiles.file?_congr _ same,
        ← MemoryFiles.modified_eq_ok_iff] at stat
      exact .inl stat
    · intro due
      have before : Due path history s := by
        refine due.of_cons quiet (by simp) ?_ ?_ rfl
        · exact fun ticket fresh ended => ⟨(Attended.fresh_cons_iff (by simp) quiet).mp fresh, ended⟩
        · exact fun scan listed _ => (Surveyed.list_mem_since_iff quiet (by simp)).mp listed
      have held := reflected.due before
      rw [locked] at held
      cases visitor <;> exact held

theorem fetch (reflected : Reflected catalogue path history s) (traced : Traced history s)
    (fixed : s.index.catalogue = catalogue) {visitor : Visitor} {place : Path} {modified : Stamp}
    (locked : s.lock = .visiting visitor place (some modified)) :
    Reflected catalogue path (.fetch :: history) (s.fetch visitor place modified) := by
  have quiet : Action.changes path .fetch = false := rfl
  by_cases same : place.same path
  · refine of_mirrors (lock_endVisit_ne_stamped _ _ _) (fun due => ?_)
    rcases reflected.visit locked same with current | ⟨unused, stranger⟩
    · obtain ⟨file, found, rfl⟩ := (MemoryFiles.modified_eq_ok_iff _ _ _).mp current
      have read : s.memory.source.read place = .ok file.content := by
        rw [MemoryFiles.read_eq_ok_iff, MemoryFiles.file?_congr _ same]
        exact ⟨file, found, rfl⟩
      simp only [System.fetch, read, Index.reread, System.endVisit_memory, endVisit_index_ok, found,
        Index.get?_refresh, if_pos same, fixed]
      cases taken : catalogue.endpoints? place file.content with
      | none =>
        rw [Catalogue.endpoints?_eq_none_iff, Catalogue.select?_congr _ same] at taken
        exact taken
      | some endpoints => rfl
    · -- nobody relies on the index yet, and this look began before the last change
      refine absurd (due.relied.of_cons (by simp) ?_ ?_) unused
      · intro ticket fresh ended
        rw [Attended.fresh_cons_iff (by simp) quiet] at fresh
        refine ⟨fresh, ?_⟩
        cases visitor with
        | replay scan queue => exact ended
        | call mover watched =>
          have differ : ticket ≠ mover := by
            rintro rfl
            exact stranger ticket watched rfl fresh
          rwa [System.fetch, System.endVisit, System.setCall_of_ne _ _ differ] at ended
      · exact fun scan listed _ => (Surveyed.list_mem_since_iff quiet (by simp)).mp listed
  · refine reflected.endVisit_of_not_same traced quiet (by simp) rfl locked same ?_
    cases s.memory.source.read place with
    | error fault => rfl
    | ok content =>
      simp only [Index.reread]
      rw [Index.get?_refresh, if_neg same]

theorem call (reflected : Reflected catalogue path history s) (traced : Traced history s)
    (fixed : s.index.catalogue = catalogue) (handled : catalogue.handles path) {ticket : Nat}
    {event : FileEvent} (new : s.calls ticket = none) :
    Reflected catalogue path (.call ticket (.event event) :: history)
      (s.setCall ticket (.ofRequest s.index.catalogue (.event event))) := by
  have quiet : Action.changes path (.call ticket (.event event)) = false := rfl
  refine reflected.of_entry_lock_eq quiet (by simp) ?_ ?_ rfl rfl rfl ?_
  · intro other fresh ended
    rcases fresh.cases_call_cons traced handled new with ⟨rfl, unfinished⟩ | ⟨differ, earlier⟩
    · rw [System.setCall_self, fixed] at ended
      exact absurd (Option.some.inj ended) unfinished
    · rw [System.setCall_of_ne _ _ differ] at ended
      exact ⟨earlier, ended⟩
  · exact fun scan listed _ => (Surveyed.list_mem_since_iff quiet (by simp)).mp listed
  · intro other watched place stamp? held fresh
    rcases fresh.cases_call_cons traced handled new with ⟨rfl, _⟩ | ⟨_, earlier⟩
    · have state := traced.inside held
      rw [new] at state
      cases state
    · exact earlier

theorem list (reflected : Reflected catalogue path history s) (orderly : Orderly history s)
    {scan : Nat} (stage : s.scans scan = .registered) (files : List (Path × Look)) :
    Reflected catalogue path (.list scan :: history) (s.setScan scan (.looking files)) := by
  have quiet : Action.changes path (.list scan) = false := rfl
  refine reflected.of_entry_lock_eq quiet (by simp) ?_ ?_ rfl rfl rfl ?_
  · exact fun ticket fresh ended => ⟨(Attended.fresh_cons_iff (by simp) quiet).mp fresh, ended⟩
  · intro other listed published
    rw [since_cons quiet, List.mem_cons] at listed
    refine listed.resolve_left ?_
    intro same
    cases same
    exact orderly.publish_notMem (by simp [stage, Stage.isPublished]) published
  · exact fun _ fresh => (Attended.fresh_cons_iff (by simp) quiet).mp fresh

theorem step (reflected : Reflected catalogue path history s) (traced : Traced history s)
    (attended : Attended path history s) (surveyed : Surveyed catalogue path history s)
    (orderly : Orderly history s) (fixed : s.index.catalogue = catalogue)
    (handled : catalogue.handles path) (admitted : Serial s action) (next : Step s action t) :
    Reflected catalogue path (action :: history) t := by
  by_cases change : action.changes path
  · exact of_changes change
  have quiet : action.changes path = false := by simpa using change
  have file := next.file?_eq quiet
  cases next with
  | call request new =>
    obtain ⟨⟨event, rfl⟩, _⟩ := admitted
    exact reflected.call traced fixed handled new
  | list stage => exact reflected.list orderly stage _
  | publish locked stage => exact publish surveyed attended locked stage
  | delete free state => exact reflected.delete traced attended free state
  | glance locked => exact reflected.glance traced locked
  | fetch locked => exact reflected.fetch traced fixed locked
  | @enter ticket place watched free state =>
    refine reflected.of_queue_subset quiet (by simp) ?_ ?_ rfl (by simp [System.setCall]) ?_ ?_
    · intro other fresh ended
      refine ⟨(Attended.fresh_cons_iff (by simp) quiet).mp fresh, ?_⟩
      have differ : other ≠ ticket := by
        rintro rfl
        simp at ended
      rwa [System.setCall_of_ne _ _ differ] at ended
    · exact fun scan listed _ => (Surveyed.list_mem_since_iff quiet (by simp)).mp listed
    · simp [free, Lock.queue]
    · simp [System.setCall]
  | close free | discard free | accept free =>
    refine reflected.of_queue_subset quiet (by simp) ?_ ?_ rfl rfl ?_ ?_
    · exact fun ticket fresh ended => ⟨(Attended.fresh_cons_iff (by simp) quiet).mp fresh, ended⟩
    · exact fun scan listed _ => (Surveyed.list_mem_since_iff quiet (by simp)).mp listed
    · simp [free, Lock.queue]
    · simp [System.setScan]
  | tick | store | erase =>
    refine reflected.of_entry_lock_eq quiet (by simp) ?_ ?_ file rfl rfl ?_
    · exact fun ticket fresh ended => ⟨(Attended.fresh_cons_iff (by simp) quiet).mp fresh, ended⟩
    · exact fun scan listed _ => (Surveyed.list_mem_since_iff quiet (by simp)).mp listed
    · exact fun _ fresh => (Attended.fresh_cons_iff (by simp) quiet).mp fresh
  | number | register | stat | read | report =>
    refine reflected.of_entry_lock_eq quiet (by simp) ?_ ?_ rfl rfl rfl ?_
    · exact fun ticket fresh ended => ⟨(Attended.fresh_cons_iff (by simp) quiet).mp fresh, ended⟩
    · exact fun scan listed _ => (Surveyed.list_mem_since_iff quiet (by simp)).mp listed
    · exact fun _ fresh => (Attended.fresh_cons_iff (by simp) quiet).mp fresh

end Reflected

section Run

variable {catalogue : Catalogue} {history : List Action} {s : System} {path : Path}

theorem Run.attended (run : Run catalogue Serial history s) (handled : catalogue.handles path) :
    Attended path history s := by
  induction run with
  | start => exact Attended.initial catalogue
  | step past admitted next ih =>
    exact ih.step past.traced (by rwa [past.coherent.fixed]) admitted next

theorem Run.surveyed {admits : System → Action → Prop} (run : Run catalogue admits history s)
    (handled : catalogue.handles path) : Surveyed catalogue path history s := by
  induction run with
  | start => exact Surveyed.initial
  | step past admitted next ih => exact ih.step past.orderly past.coherent.fixed handled next

theorem Run.reflected (run : Run catalogue Serial history s) (handled : catalogue.handles path) :
    Reflected catalogue path history s := by
  induction run with
  | start => exact Reflected.initial
  | step past admitted next ih =>
    exact ih.step past.traced (past.attended handled) (past.surveyed handled) past.orderly
      past.coherent.fixed handled admitted next

theorem Run.mirrors_unhandled {admits : System → Action → Prop}
    (run : Run catalogue admits history s) (unhandled : ¬ catalogue.handles path) :
    Mirrors catalogue path (s.memory.file? path) (s.index.snapshot.get? path) := by
  have absent : s.index.snapshot.get? path = none := by
    cases held : s.index.snapshot.get? path with
    | none => rfl
    | some entry =>
      obtain ⟨_, ⟨content, made⟩, _⟩ := run.coherent.snapshot entry (Snapshot.mem_of_get? held)
      obtain ⟨extractor, selected, _⟩ := (Catalogue.endpoints?_eq_some_iff _ _ _ _).mp made
      rw [Catalogue.select?_congr _ (Snapshot.same_of_get? held)] at selected
      exact absurd (Catalogue.handles_of_select? selected) unhandled
  rw [absent]
  cases s.memory.file? path with
  | none => rfl
  | some file =>
    cases selected : catalogue.select? path file.content with
    | none => exact selected
    | some extractor => exact absurd (Catalogue.handles_of_select? selected) unhandled

/-- Mirroring, spelled out: there is an entry just when some extractor takes the file, and it has the
stamp and the endpoints of the file. -/
theorem Run.entry_iff_of_mirrors {admits : System → Action → Prop}
    (run : Run catalogue admits history s)
    (mirrors : Mirrors catalogue path (s.memory.file? path) (s.index.snapshot.get? path)) :
    ((∃ entry, s.index.snapshot.get? path = some entry) ↔ ∃ file extractor,
      s.memory.file? path = some file ∧ catalogue.select? path file.content = some extractor) ∧
    ∀ entry, s.index.snapshot.get? path = some entry → ∃ file, s.memory.file? path = some file ∧
      entry.modified = file.modified ∧
        catalogue.endpoints? entry.path file.content = some entry.endpoints := by
  cases found : s.memory.file? path with
  | none =>
    rw [found] at mirrors
    have absent : s.index.snapshot.get? path = none := mirrors
    simp [absent]
  | some file =>
    rw [found] at mirrors
    cases held : s.index.snapshot.get? path with
    | none =>
      rw [held] at mirrors
      have unclaimed : catalogue.select? path file.content = none := mirrors
      simp [unclaimed]
    | some entry =>
      rw [held] at mirrors
      have stamp : entry.modified = file.modified := mirrors
      have same := Snapshot.same_of_get? held
      have current := (run.coherent.snapshot entry (Snapshot.mem_of_get? held)).2.2 file
        (by rw [MemoryFiles.file?_congr _ same, found]) stamp.symm
      obtain ⟨extractor, selected, _⟩ := (Catalogue.endpoints?_eq_some_iff _ _ _ _).mp current
      rw [Catalogue.select?_congr _ same] at selected
      constructor
      · exact iff_of_true ⟨entry, rfl⟩ ⟨file, extractor, rfl, selected⟩
      · intro other equal
        cases equal
        exact ⟨file, rfl, stamp, current⟩

end Run

/-- Events come one at a time. When nobody holds the lock and no call is under way, the index holds for
a file what the file has become, provided that an event about it was called for after its last change,
or that a scan listed the files after that change and has published. An event that reports the file as
removed though it is there drops its entry, and so does one that had found no file and comes back
after the scan. -/
theorem snapshot_converges {catalogue : Catalogue} {history : List Action} {s : System}
    (run : Run catalogue Serial history s) (path : Path) (free : s.lock = .free)
    (ended : ∀ ticket call, s.calls ticket = some call → call = .ended)
    (spared : Spared path history s)
    (covered : (∃ ticket, Fresh path history ticket) ∨ ∃ scan, .list scan ∈ since path history ∧
      .publish scan ∈ history ∧ Undropped path scan history s) :
    ((∃ entry, s.index.snapshot.get? path = some entry) ↔ ∃ file extractor,
      s.memory.file? path = some file ∧ catalogue.select? path file.content = some extractor) ∧
    ∀ entry, s.index.snapshot.get? path = some entry → ∃ file, s.memory.file? path = some file ∧
      entry.modified = file.modified ∧
        catalogue.endpoints? entry.path file.content = some entry.endpoints := by
  refine run.entry_iff_of_mirrors ?_
  by_cases handled : catalogue.handles path
  · have due : Due path history s := by
      refine ⟨spared, ?_⟩
      rcases covered with ⟨ticket, event, member, same⟩ | known
      · obtain ⟨call, state⟩ := Option.ne_none_iff_exists'.mp
          (run.traced.begun (mem_of_mem_since member))
        rw [ended ticket call state] at state
        exact .inl ⟨ticket, ⟨event, member, same⟩, state⟩
      · exact .inr known
    rcases (run.reflected handled).due due with right | ⟨other, member, _⟩
    · exact right
    · rw [free] at member
      cases member
  · exact run.mirrors_unhandled handled

/-- A scan lists the files before a file is written, the event about it comes while the scan runs, and
the scan publishes without the file and looks at it once more. -/
theorem snapshot_converges_after_replay :
    ∃ s, Run (.ofList [.echo]) Serial
      [.report 1, .fetch, .glance, .publish 1, .accept 1, .close 1, .fetch, .glance,
        .enter 0 ⟨"a.go".toList⟩, .call 0 (.event (.changed ⟨"a.go".toList⟩)),
        .store ⟨⟨"a.go".toList⟩, 1, "echo.New()\ne.GET(\"/a\", h)".toList⟩,
        .tick ⟨"a.go".toList⟩ "echo.New()\ne.GET(\"/a\", h)".toList, .list 1, .register 1,
        .number] s ∧
      ∃ entry, s.index.snapshot.get? ⟨"a.go".toList⟩ = some entry ∧ ∃ file,
        s.memory.file? ⟨"a.go".toList⟩ = some file ∧ entry.modified = file.modified ∧
          Catalogue.endpoints? (.ofList [.echo]) entry.path file.content = some entry.endpoints := by
  refine exists_run (fun s => s.lock = .free ∧ s.calls 0 = some .ended ∧
    (s.index.snapshot.get? ⟨"a.go".toList⟩).isSome) (by decide +kernel)
    (Run.serial_of_single_call (by decide) (by simp)) ?_
  rintro s run ⟨free, state, held⟩
  obtain ⟨entry, found⟩ := Option.isSome_iff_exists.mp held
  refine ⟨entry, found, (snapshot_converges run _ free ?_ ?_ (.inl ⟨0, ?_⟩)).2 entry found⟩
  · intro ticket call known
    obtain ⟨request, member⟩ := run.traced.known (by simp [known] : s.calls ticket ≠ none)
    obtain ⟨rfl, _⟩ : ticket = 0 ∧ request = .event (.changed ⟨"a.go".toList⟩) := by
      simpa using member
    rw [state] at known
    exact (Option.some.inj known).symm
  · intro file _ ticket other member
    simpa using mem_of_mem_since member
  · exact ⟨.changed ⟨"a.go".toList⟩, by simp [since, Action.changes], by simp [FileEvent.path]⟩

/-- An event finds no file, the file is written, and a scan publishes it. Then the event goes on and
drops the entry, though it did not report the file as removed. -/
theorem late_drop_after_scan : ¬ ∀ (catalogue : Catalogue) (history : List Action) (s : System)
    (path : Path), Run catalogue Serial history s → s.lock = .free →
    (∀ scan, s.scans scan = .absent ∨ ∃ report, s.scans scan = .finished report) →
    (∀ ticket call, s.calls ticket = some call → call = .ended) → Spared path history s →
    ((∃ ticket, Fresh path history ticket) ∨
      ∃ scan, .list scan ∈ since path history ∧ .publish scan ∈ history) →
    ((∃ entry, s.index.snapshot.get? path = some entry) ↔ ∃ file extractor,
      s.memory.file? path = some file ∧ catalogue.select? path file.content = some extractor) := by
  intro converges
  obtain ⟨s, run, free, latest, finished, state, absent, found⟩ :
      ∃ s, Run (.ofList [.gin]) Serial
        [.delete 0 ⟨"a.go".toList⟩ true, .report 1, .publish 1, .accept 1, .close 1, .read 1 0,
          .stat 1 0, .list 1, .register 1, .number,
          .store ⟨⟨"a.go".toList⟩, 1, "gin.Engine".toList⟩,
          .tick ⟨"a.go".toList⟩ "gin.Engine".toList, .glance, .enter 0 ⟨"a.go".toList⟩,
          .call 0 (.event (.changed ⟨"a.go".toList⟩))] s ∧
        s.lock = .free ∧ s.index.generation = 1 ∧
          s.scans 1 = .finished ⟨1, 1, 0, 0, [], false⟩ ∧ s.calls 0 = some .ended ∧
            s.index.snapshot.get? ⟨"a.go".toList⟩ = none ∧
              s.memory.file? ⟨"a.go".toList⟩ =
                some ⟨⟨"a.go".toList⟩, 1, "gin.Engine".toList⟩ :=
    exists_run _ (by decide +kernel) (Run.serial_of_single_call (by decide) (by simp))
      (fun _ _ checked => checked)
  have wrong := converges _ _ s ⟨"a.go".toList⟩ run free ?_ ?_ ?_ ?_
  · have taken : (Catalogue.select? (.ofList [.gin]) ⟨"a.go".toList⟩ "gin.Engine".toList).isSome := by
      decide +kernel
    obtain ⟨extractor, selected⟩ := Option.isSome_iff_exists.mp taken
    obtain ⟨entry, held⟩ := wrong.mpr ⟨_, extractor, found, selected⟩
    rw [absent] at held
    cases held
  · intro scan
    by_cases here : scan = 1
    · exact .inr ⟨_, here ▸ finished⟩
    · exact .inl (run.orderly.absent.mpr (by omega))
  · intro ticket call known
    obtain ⟨request, member⟩ := run.traced.known (by simp [known] : s.calls ticket ≠ none)
    obtain ⟨rfl, _⟩ : ticket = 0 ∧ request = .event (.changed ⟨"a.go".toList⟩) := by
      simpa using member
    rw [state] at known
    exact (Option.some.inj known).symm
  · intro file _ ticket other member
    simpa using mem_of_mem_since member
  · exact .inr ⟨1, by simp [since, Action.changes], by simp⟩

end RouteAtlas.Interleaving
