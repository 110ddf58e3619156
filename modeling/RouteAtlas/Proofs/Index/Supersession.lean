import Mathlib.Data.Finset.Card
import RouteAtlas.Proofs.Index.Execution

namespace RouteAtlas.Interleaving

def Stage.isRunning : Stage → Bool
  | .registered | .looking _ => true
  | _ => false

/-- A scan that has registered and has neither published nor been dropped. -/
def Stage.isUnfinished : Stage → Bool
  | .registered | .looking _ | .closing _ => true
  | _ => false

def Stage.isPublished : Stage → Bool
  | .published _ => true
  | .finished report => !report.superseded
  | _ => false

def Lock.closer? : Lock → Option Nat
  | .deciding scan => some scan
  | .publishing scan => some scan
  | _ => none

/-- The scans that have published, the latest first. -/
def publications (history : List Action) : List Nat :=
  history.filterMap fun
    | .publish scan => some scan
    | _ => none

@[simp] theorem closer?_replaying (scan : Nat) (queue : List Path) :
    (Lock.replaying scan queue).closer? = none := by
  cases queue <;> rfl

structure Orderly (history : List Action) (s : System) : Prop where
  absent : ∀ {scan}, s.scans scan = .absent ↔ scan = 0 ∨ s.index.generation < scan
  running : ∃ running : Finset Nat,
    (∀ scan, scan ∈ running ↔ (s.scans scan).isRunning) ∧ running.card = s.index.scansInFlight
  touched : s.lock.closer? = none → s.index.scansInFlight = 0 → s.index.touched = []
  closing : ∀ {scan}, (∃ results, s.scans scan = .closing results) ↔ s.lock.closer? = some scan
  /-- Scans that started after another one was found to be the latest have not even registered. -/
  later : ∀ {scan}, s.lock = .publishing scan → ∀ {other}, scan < other →
    s.scans other = .absent ∨ s.scans other = .numbered
  earlier : ∀ {scan}, s.lock = .publishing scan → ∀ other ∈ publications history, other < scan
  published : ∀ {scan}, scan ∈ publications history ↔ (s.scans scan).isPublished
  outdated : ∀ {scan report}, s.scans scan = .finished report → report.superseded →
    scan < s.index.generation
  ascending : (publications history).Pairwise (· > ·)

namespace Orderly

variable {history : List Action} {s t : System} {action : Action}

theorem initial (catalogue : Catalogue) : Orderly [] (.initial catalogue) where
  absent := by
    intro scan
    simp only [System.initial, Index.new, true_iff]
    omega
  running := ⟨∅, by simp [System.initial, Stage.isRunning], rfl⟩
  touched := fun _ _ => rfl
  closing := by simp [System.initial, Lock.closer?]
  later := by simp [System.initial]
  earlier := by simp [System.initial]
  published := by simp [System.initial, publications, Stage.isPublished]
  outdated := by simp [System.initial]
  ascending := List.Pairwise.nil

theorem publish_notMem (orderly : Orderly history s) {scan : Nat}
    (unpublished : (s.scans scan).isPublished = false) : .publish scan ∉ history := by
  intro member
  have published := orderly.published.mp (List.mem_filterMap.mpr ⟨_, member, rfl⟩)
  rw [unpublished] at published
  cases published

theorem le_generation (orderly : Orderly history s) {scan : Nat} (present : s.scans scan ≠ .absent) :
    0 < scan ∧ scan ≤ s.index.generation := by
  have bound := mt orderly.absent.mpr present
  omega

section Update

variable (orderly : Orderly history s) {scan : Nat} {stage : Stage}
include orderly

theorem absent_update (old : s.scans scan ≠ .absent) (new : stage ≠ .absent) {other : Nat} :
    Function.update s.scans scan stage other = .absent ↔
      other = 0 ∨ s.index.generation < other := by
  by_cases here : other = scan
  · subst here
    have bound := orderly.le_generation old
    simp only [Function.update_self, new, false_iff]
    omega
  · rw [Function.update_of_ne here]
    exact orderly.absent

theorem published_update (same : stage.isPublished = (s.scans scan).isPublished) {other : Nat} :
    other ∈ publications history ↔ (Function.update s.scans scan stage other).isPublished := by
  by_cases here : other = scan
  · subst here
    rw [Function.update_self, same]
    exact orderly.published
  · rw [Function.update_of_ne here]
    exact orderly.published

theorem outdated_update
    (new : ∀ report, stage = .finished report → report.superseded → scan < s.index.generation)
    {other : Nat} {report : ScanReport}
    (finished : Function.update s.scans scan stage other = .finished report)
    (superseded : report.superseded) : other < s.index.generation := by
  by_cases here : other = scan
  · subst here
    rw [Function.update_self] at finished
    exact new report finished superseded
  · rw [Function.update_of_ne here] at finished
    exact orderly.outdated finished superseded

theorem closing_update (old : ∀ results, s.scans scan ≠ .closing results)
    (new : ∀ results, stage ≠ .closing results) {other : Nat} :
    (∃ results, Function.update s.scans scan stage other = .closing results) ↔
      s.lock.closer? = some other := by
  by_cases here : other = scan
  · subst here
    rw [Function.update_self]
    refine iff_of_false (fun ⟨results, same⟩ => new results same) ?_
    rw [← orderly.closing]
    exact fun ⟨results, same⟩ => old results same
  · rw [Function.update_of_ne here]
    exact orderly.closing

end Update

theorem scansInFlight_pos (orderly : Orderly history s) {scan : Nat}
    (running : (s.scans scan).isRunning) : 0 < s.index.scansInFlight := by
  obtain ⟨all, member, card⟩ := orderly.running
  rw [← card]
  exact Finset.card_pos.mpr ⟨scan, (member scan).mpr running⟩

theorem of_kept_of_unlocked (orderly : Orderly history s) (scans : t.scans = s.scans)
    (kept : Index.Kept s.index t.index ∨
      ∃ path, Index.Kept (s.index.touch path) t.index)
    (before : s.lock.closer? = none) (after : t.lock.closer? = none)
    (silent : publications (action :: history) = publications history) :
    Orderly (action :: history) t := by
  have generation : t.index.generation = s.index.generation := by
    rcases kept with kept | ⟨path, kept⟩ <;> simp [kept.generation]
  have count : t.index.scansInFlight = s.index.scansInFlight := by
    rcases kept with kept | ⟨path, kept⟩ <;> simp [kept.scansInFlight]
  have unlocked : ∀ scan, t.lock ≠ .publishing scan := by
    intro scan held
    rw [held] at after
    cases after
  constructor
  · rw [scans, generation]
    exact orderly.absent
  · rw [scans, count]
    exact orderly.running
  · intro _ idle
    rw [count] at idle
    rcases kept with kept | ⟨path, kept⟩
    · rw [kept.touched]
      exact orderly.touched before idle
    · rw [kept.touched, Index.touch_of_idle s.index path idle]
      exact orderly.touched before idle
  · rw [scans, after, ← before]
    exact orderly.closing
  · exact fun held => absurd held (unlocked _)
  · exact fun held => absurd held (unlocked _)
  · rw [silent, scans]
    exact orderly.published
  · rw [scans, generation]
    exact orderly.outdated
  · rw [silent]
    exact orderly.ascending

theorem of_scans_index_lock_eq (orderly : Orderly history s) (scans : t.scans = s.scans)
    (index : t.index = s.index) (lock : t.lock = s.lock)
    (silent : publications (action :: history) = publications history) :
    Orderly (action :: history) t := by
  constructor
  · rw [scans, index]
    exact orderly.absent
  · rw [scans, index]
    exact orderly.running
  · rw [index, lock]
    exact orderly.touched
  · rw [scans, lock]
    exact orderly.closing
  · rw [scans, lock]
    exact orderly.later
  · rw [lock, silent]
    exact orderly.earlier
  · rw [scans, silent]
    exact orderly.published
  · rw [scans, index]
    exact orderly.outdated
  · rw [silent]
    exact orderly.ascending

/-- A scan goes on without the lock: it counts as running, or has published, just as before. -/
theorem setScan (orderly : Orderly history s) {scan : Nat} {stage : Stage}
    (before : (s.scans scan).isRunning ∨ (s.scans scan).isPublished)
    (running : stage.isRunning = (s.scans scan).isRunning)
    (published : stage.isPublished = (s.scans scan).isPublished)
    (silent : publications (action :: history) = publications history) :
    Orderly (action :: history) (s.setScan scan stage) := by
  have after : stage.isRunning ∨ stage.isPublished := by rw [running, published]; exact before
  have absent : ∀ {stage : Stage}, stage.isRunning ∨ stage.isPublished → stage ≠ .absent := by
    rintro stage active rfl
    simp [Stage.isRunning, Stage.isPublished] at active
  have unclosed : ∀ {stage : Stage}, stage.isRunning ∨ stage.isPublished →
      ∀ results, stage ≠ .closing results := by
    rintro stage active results rfl
    simp [Stage.isRunning, Stage.isPublished] at active
  constructor
  · exact orderly.absent_update (absent before) (absent after)
  · obtain ⟨all, member, card⟩ := orderly.running
    refine ⟨all, ?_, card⟩
    intro other
    by_cases here : other = scan
    · subst here
      rw [System.setScan_self, running]
      exact member other
    · rw [System.setScan_of_ne s stage here]
      exact member other
  · exact orderly.touched
  · exact orderly.closing_update (unclosed before) (unclosed after)
  · intro closer held other less
    by_cases here : other = scan
    · subst here
      rcases orderly.later held less with known | known <;>
        simp [known, Stage.isRunning, Stage.isPublished] at before
    · rw [System.setScan_of_ne s stage here]
      exact orderly.later held less
  · rw [silent]
    exact orderly.earlier
  · rw [silent]
    exact orderly.published_update published
  · refine orderly.outdated_update ?_
    rintro report rfl superseded
    simp [Stage.isRunning, Stage.isPublished, superseded] at after
  · rw [silent]
    exact orderly.ascending

theorem number (orderly : Orderly history s) :
    Orderly (.number :: history)
      ({ s with index := s.index.takeGeneration.2 }.setScan s.index.takeGeneration.1 .numbered) := by
  have new : s.scans (s.index.generation + 1) = .absent := orderly.absent.mpr (by omega)
  constructor
  · intro scan
    simp only [System.setScan, Index.takeGeneration]
    by_cases newest : scan = s.index.generation + 1
    · subst newest
      simp
    · rw [Function.update_of_ne newest, orderly.absent]
      omega
  · obtain ⟨all, member, card⟩ := orderly.running
    refine ⟨all, ?_, card⟩
    intro scan
    simp only [System.setScan, Index.takeGeneration]
    by_cases newest : scan = s.index.generation + 1
    · subst newest
      simp [member, new, Stage.isRunning]
    · rw [Function.update_of_ne newest]
      exact member scan
  · exact orderly.touched
  · exact orderly.closing_update (by simp [Index.takeGeneration, new]) (by simp)
  · intro closer held other less
    simp only [System.setScan, Index.takeGeneration]
    by_cases newest : other = s.index.generation + 1
    · subst newest
      simp
    · rw [Function.update_of_ne newest]
      exact orderly.later held less
  · exact orderly.earlier
  · exact orderly.published_update (by simp [Index.takeGeneration, new, Stage.isPublished])
  · intro scan report finished superseded
    have known := orderly.outdated_update (by simp) finished superseded
    exact Nat.lt_succ_of_lt known
  · exact orderly.ascending

theorem register (orderly : Orderly history s) {scan : Nat} (free : s.lock = .free)
    (stage : s.scans scan = .numbered) :
    Orderly (.register scan :: history)
      ({ s with index := s.index.register }.setScan scan .registered) := by
  have unlocked : ∀ closer, s.lock ≠ .publishing closer := by simp [free]
  constructor
  · exact orderly.absent_update (by simp [stage]) (by simp)
  · obtain ⟨all, member, card⟩ := orderly.running
    refine ⟨insert scan all, ?_, ?_⟩
    · intro other
      rw [Finset.mem_insert]
      by_cases here : other = scan
      · subst here
        simp [Stage.isRunning]
      · rw [System.setScan_of_ne _ _ here]
        simp [here, member]
    · have outside : scan ∉ all := by simp [member, stage, Stage.isRunning]
      rw [Finset.card_insert_of_notMem outside, card]
      rfl
  · intro _ idle
    cases idle
  · exact orderly.closing_update (by simp [stage]) (by simp)
  · exact fun held => absurd held (unlocked _)
  · exact fun held => absurd held (unlocked _)
  · exact orderly.published_update (by simp [stage, Stage.isPublished])
  · exact orderly.outdated_update (by simp)
  · exact orderly.ascending

theorem close (orderly : Orderly history s) {scan : Nat} {files : List (Path × Look)}
    (results : List FileResult) (free : s.lock = .free) (stage : s.scans scan = .looking files) :
    Orderly (.close scan :: history)
      ({ s with index := s.index.unregister, lock := .deciding scan }.setScan scan
        (.closing results)) := by
  constructor
  · exact orderly.absent_update (by simp [stage]) (by simp)
  · obtain ⟨all, member, card⟩ := orderly.running
    have inside : scan ∈ all := by simp [member, stage, Stage.isRunning]
    refine ⟨all.erase scan, ?_, ?_⟩
    · intro other
      rw [Finset.mem_erase]
      by_cases here : other = scan
      · subst here
        simp [Stage.isRunning]
      · rw [System.setScan_of_ne _ _ here]
        simp [here, member]
    · rw [Finset.card_erase_of_mem inside, card]
      rfl
  · intro unlocked
    cases unlocked
  · intro other
    by_cases here : other = scan
    · subst here
      rw [System.setScan_self]
      exact iff_of_true ⟨results, rfl⟩ rfl
    · have known : (∃ results, s.scans other = .closing results) ↔ s.lock.closer? = some other :=
        orderly.closing
      rw [free] at known
      rw [System.setScan_of_ne _ _ here, known]
      simp [Lock.closer?, System.setScan, Ne.symm here]
  · intro closer held
    cases held
  · intro closer held
    cases held
  · exact orderly.published_update (by simp [stage, Stage.isPublished])
  · exact orderly.outdated_update (by simp)
  · exact orderly.ascending

theorem not_closing_update (orderly : Orderly history s) {scan : Nat} {stage : Stage}
    (locked : s.lock.closer? = some scan) (new : ∀ results, stage ≠ .closing results) (other : Nat) :
    ¬ ∃ results, Function.update s.scans scan stage other = .closing results := by
  rintro ⟨results, closing⟩
  by_cases here : other = scan
  · subst here
    rw [Function.update_self] at closing
    exact new results closing
  · rw [Function.update_of_ne here] at closing
    have held := orderly.closing.mp ⟨results, closing⟩
    rw [locked] at held
    exact here (Option.some.inj held).symm

theorem running_update (orderly : Orderly history s) {scan : Nat} {stage : Stage}
    (old : (s.scans scan).isRunning = false) (new : stage.isRunning = false) :
    ∃ running : Finset Nat,
      (∀ other, other ∈ running ↔ (Function.update s.scans scan stage other).isRunning) ∧
        running.card = s.index.scansInFlight := by
  obtain ⟨all, member, card⟩ := orderly.running
  refine ⟨all, ?_, card⟩
  intro other
  by_cases here : other = scan
  · subst here
    simp [member, old, new]
  · rw [Function.update_of_ne here]
    exact member other

theorem discard (orderly : Orderly history s) {scan : Nat} {results : List FileResult}
    (locked : s.lock = .deciding scan) (stage : s.scans scan = .closing results)
    (outdated : scan ≠ s.index.generation) :
    Orderly (.discard scan :: history)
      ({ s with index := s.index.discardScan, lock := .free }.setScan scan
        (.finished (Index.discardedReport results))) := by
  have bound := orderly.le_generation (by rw [stage]; simp)
  constructor
  · exact orderly.absent_update (by simp [stage]) (by simp)
  · exact orderly.running_update (by simp [stage, Stage.isRunning]) rfl
  · intro _ idle
    have none : s.index.scansInFlight = 0 := idle
    simp [System.setScan, Index.discardScan, none]
  · exact fun {other} => iff_of_false
      (orderly.not_closing_update (by rw [locked]; rfl) (by simp) other)
      (by simp [System.setScan, Lock.closer?])
  · intro closer held
    cases held
  · intro closer held
    cases held
  · exact orderly.published_update
      (by simp [stage, Stage.isPublished, Index.discardedReport])
  · exact orderly.outdated_update (fun _ _ _ => by omega)
  · exact orderly.ascending

theorem accept (orderly : Orderly history s) {scan : Nat} (locked : s.lock = .deciding scan)
    (latest : scan = s.index.generation) :
    Orderly (.accept scan :: history) { s with lock := .publishing scan } := by
  have closer : s.lock.closer? = some scan := by rw [locked]; rfl
  obtain ⟨results, stage⟩ := orderly.closing.mpr closer
  constructor
  · exact orderly.absent
  · exact orderly.running
  · intro unlocked
    cases unlocked
  · intro other
    rw [orderly.closing, closer]
    rfl
  · intro holder held other less
    cases held
    exact .inl (orderly.absent.mpr (by omega))
  · intro holder held other member
    cases held
    have published := orderly.published.mp member
    have present : s.scans other ≠ .absent := by
      intro absent
      simp [absent, Stage.isPublished] at published
    have bound := orderly.le_generation present
    have differ : other ≠ scan := by
      rintro rfl
      simp [stage, Stage.isPublished] at published
    omega
  · exact orderly.published
  · exact orderly.outdated
  · exact orderly.ascending

theorem publish (orderly : Orderly history s) {scan : Nat} {results : List FileResult}
    (locked : s.lock = .publishing scan) (stage : s.scans scan = .closing results) :
    Orderly (.publish scan :: history)
      ({ s with
        index := s.index.replaceEntries (results.filterMap FileResult.taken?)
        lock := .replaying scan s.index.touched }.setScan scan (.published results)) := by
  constructor
  · exact orderly.absent_update (by simp [stage]) (by simp)
  · exact orderly.running_update (by simp [stage, Stage.isRunning]) rfl
  · exact fun _ _ => rfl
  · exact fun {other} => iff_of_false
      (orderly.not_closing_update (by rw [locked]; rfl) (by simp) other) (by simp [System.setScan])
  · intro closer held
    have unlocked := closer?_replaying scan s.index.touched
    rw [show Lock.replaying scan s.index.touched = .publishing closer from held] at unlocked
    cases unlocked
  · intro closer held
    have unlocked := closer?_replaying scan s.index.touched
    rw [show Lock.replaying scan s.index.touched = .publishing closer from held] at unlocked
    cases unlocked
  · intro other
    rw [show publications (.publish scan :: history) = scan :: publications history from rfl,
      List.mem_cons]
    by_cases here : other = scan
    · subst here
      simp [Stage.isPublished]
    · rw [System.setScan_of_ne _ _ here]
      simp only [here, false_or]
      exact orderly.published
  · exact orderly.outdated_update (by simp)
  · exact List.pairwise_cons.mpr ⟨orderly.earlier locked, orderly.ascending⟩

theorem closer?_endVisit (s : System) (visitor : Visitor) (path : Path)
    (result : Index × Except Fault Outcome) :
    (s.endVisit visitor path result).lock.closer? = none := by
  cases visitor with
  | call ticket watched => rfl
  | replay scan queue => exact closer?_replaying scan queue

theorem closer?_glance (s : System) (visitor : Visitor) (path : Path) :
    (s.glance visitor path).lock.closer? = none := by
  rcases s.glance_cases visitor path with ⟨fault, _, ends⟩ | ⟨m, _, _, ends⟩ | ⟨m, _, _, ends⟩
  · rw [ends]
    exact closer?_endVisit s visitor path _
  · rw [ends]
    exact closer?_endVisit s visitor path _
  · rw [ends]
    rfl

theorem step (orderly : Orderly history s) (next : Step s action t) :
    Orderly (action :: history) t := by
  cases next with
  | tick path content => exact orderly.of_scans_index_lock_eq rfl rfl rfl rfl
  | store waiting => exact orderly.of_scans_index_lock_eq rfl rfl rfl rfl
  | erase found => exact orderly.of_scans_index_lock_eq rfl rfl rfl rfl
  | call request new => exact orderly.of_scans_index_lock_eq rfl rfl rfl rfl
  | number => exact orderly.number
  | register free stage => exact orderly.register free stage
  | list stage =>
    refine orderly.setScan ?_ ?_ ?_ rfl <;> simp [stage, Stage.isRunning, Stage.isPublished]
  | stat stage item =>
    refine orderly.setScan ?_ ?_ ?_ rfl <;> simp [stage, Stage.isRunning, Stage.isPublished]
  | read stage item =>
    refine orderly.setScan ?_ ?_ ?_ rfl <;> simp [stage, Stage.isRunning, Stage.isPublished]
  | report unlocked stage =>
    refine orderly.setScan ?_ ?_ ?_ rfl <;>
      simp [stage, Stage.isRunning, Stage.isPublished, Index.publishedReport]
  | close free stage settled => exact orderly.close _ free stage
  | discard locked stage outdated => exact orderly.discard locked stage outdated
  | accept locked latest => exact orderly.accept locked latest
  | publish locked stage => exact orderly.publish locked stage
  | enter free state =>
    exact orderly.of_kept_of_unlocked rfl (.inr ⟨_, Index.Kept.refl _⟩) (by rw [free]; rfl) rfl rfl
  | delete free state =>
    exact orderly.of_kept_of_unlocked rfl (.inr ⟨_, Index.kept_remove _ _⟩) (by rw [free]; rfl)
      (by simp [System.setCall, free, Lock.closer?]) rfl
  | glance locked =>
    exact orderly.of_kept_of_unlocked (by simp) (.inl (s.glance_kept _ _)) (by rw [locked]; rfl)
      (closer?_glance s _ _) rfl
  | fetch locked =>
    exact orderly.of_kept_of_unlocked (by simp) (.inl (s.fetch_kept _ _ _)) (by rw [locked]; rfl)
      (closer?_endVisit s _ _ _) rfl

/-- With the lock free, no scan is between its registration and its end but those that count. -/
theorem isUnfinished_iff (orderly : Orderly history s) (free : s.lock = .free) (scan : Nat) :
    (s.scans scan).isUnfinished ↔ (s.scans scan).isRunning := by
  have unclosed : ¬ ∃ results, s.scans scan = .closing results := by
    rw [orderly.closing, free]
    simp [Lock.closer?]
  cases stage : s.scans scan with
  | closing results => exact absurd ⟨results, stage⟩ unclosed
  | absent | numbered | registered | looking | published | finished => rfl

theorem newest_not_superseded (orderly : Orderly history s)
    (ended : ∀ scan, s.scans scan = .absent ∨ ∃ report, s.scans scan = .finished report)
    (started : ∃ scan, s.scans scan ≠ .absent) :
    ∃ report, s.scans s.index.generation = .finished report ∧ report.superseded = false := by
  obtain ⟨scan, present⟩ := started
  have bound := orderly.le_generation present
  have latest : s.scans s.index.generation ≠ .absent := by
    rw [ne_eq, orderly.absent]
    omega
  obtain ⟨report, finished⟩ := (ended s.index.generation).resolve_left latest
  refine ⟨report, finished, ?_⟩
  rw [Bool.eq_false_iff]
  exact fun superseded => Nat.lt_irrefl _ (orderly.outdated finished superseded)

/-- A scan that has published, and with a number that no other one exceeds, was the last to do so. -/
theorem head?_publications (orderly : Orderly history s) {scan : Nat}
    (member : scan ∈ publications history) (bound : s.index.generation ≤ scan) :
    (publications history).head? = some scan := by
  have ascending := orderly.ascending
  cases published : publications history with
  | nil =>
    rw [published] at member
    cases member
  | cons last rest =>
    rw [published] at member ascending
    rcases List.mem_cons.mp member with rfl | earlier
    · rfl
    · -- an earlier publication has a smaller number than the last one, which is at most the latest
      have less := (List.pairwise_cons.mp ascending).1 scan earlier
      have shown : (s.scans last).isPublished := orderly.published.mp (by simp [published])
      have present : s.scans last ≠ .absent := by
        intro absent
        simp [absent, Stage.isPublished] at shown
      have known := orderly.le_generation present
      omega

end Orderly

theorem Run.orderly {catalogue : Catalogue} {admits : System → Action → Prop}
    {history : List Action} {s : System} (run : Run catalogue admits history s) :
    Orderly history s := by
  induction run with
  | start => exact Orderly.initial catalogue
  | step past admitted next ih => exact ih.step next

/-- Whenever the lock is free, the index counts the scans that have registered and are not done, no
path is noted as touched unless there are some, and scans have published in the order of their numbers.
Once all scans are over, the last one to publish is the one with the greatest number. -/
theorem newest_scan_publishes_last {catalogue : Catalogue} {admits : System → Action → Prop}
    {history : List Action} {s : System} (run : Run catalogue admits history s)
    (free : s.lock = .free) :
    (∃ unfinished : Finset Nat, (∀ scan, scan ∈ unfinished ↔ (s.scans scan).isUnfinished) ∧
      unfinished.card = s.index.scansInFlight) ∧
    (∀ scan, (s.scans scan).isUnfinished → 0 < s.index.scansInFlight) ∧
    (s.index.scansInFlight = 0 → s.index.touched = []) ∧
    (publications history).Pairwise (· > ·) ∧
    ((∀ scan, s.scans scan = .absent ∨ ∃ report, s.scans scan = .finished report) →
      (∃ scan, s.scans scan ≠ .absent) →
        ∃ newest report, (publications history).head? = some newest ∧
          s.scans newest = .finished report ∧ report.superseded = false ∧
            ∀ scan, s.scans scan ≠ .absent → scan ≤ newest) := by
  have orderly := run.orderly
  refine ⟨?_, ?_, ?_, orderly.ascending, ?_⟩
  · obtain ⟨running, member, card⟩ := orderly.running
    refine ⟨running, ?_, card⟩
    intro scan
    rw [member, orderly.isUnfinished_iff free]
  · intro scan unfinished
    exact orderly.scansInFlight_pos ((orderly.isUnfinished_iff free scan).mp unfinished)
  · exact orderly.touched (by rw [free]; rfl)
  · intro ended started
    obtain ⟨report, finished, kept⟩ := orderly.newest_not_superseded ended started
    have member : s.index.generation ∈ publications history := by
      rw [orderly.published, finished]
      simp [Stage.isPublished, kept]
    exact ⟨s.index.generation, report, orderly.head?_publications member (Nat.le_refl _), finished,
      kept, fun scan present => (orderly.le_generation present).2⟩

/-- The later of two scans registers first, a path is touched meanwhile, and the earlier scan ends
first. -/
theorem newest_scan_publishes_last_of_two :
    ∃ s, Run (.ofList [.echo]) (fun _ _ => True)
      [.report 2, .glance, .publish 2, .accept 2, .close 2, .discard 1, .close 1,
        .delete 0 ⟨"a.go".toList⟩ false, .call 0 (.deleted ⟨"a.go".toList⟩), .list 1, .list 2,
        .register 1, .register 2, .number, .number] s ∧
      s.lock = .free ∧ s.index.scansInFlight = 0 ∧ s.index.touched = [] ∧
      ∃ newest report, s.scans newest = .finished report ∧ report.superseded = false ∧
        ∀ scan, s.scans scan ≠ .absent → scan ≤ newest := by
  refine exists_run (fun s => s.lock = .free ∧ s.index.scansInFlight = 0 ∧
    s.index.generation = 2 ∧ s.scans 1 = .finished ⟨0, 0, 0, 0, [], true⟩ ∧
    s.scans 2 = .finished ⟨0, 0, 0, 0, [], false⟩) (by decide +kernel) id ?_
  rintro s run ⟨free, idle, latest, first, second⟩
  obtain ⟨_, _, touched, _, newest⟩ := newest_scan_publishes_last run free
  have ended : ∀ scan, s.scans scan = .absent ∨ ∃ report, s.scans scan = .finished report := by
    intro scan
    by_cases present : scan = 1 ∨ scan = 2
    · rcases present with rfl | rfl
      · exact .inr ⟨_, first⟩
      · exact .inr ⟨_, second⟩
    · refine .inl (run.orderly.absent.mpr ?_)
      omega
  obtain ⟨scan, report, _, finished, kept, greatest⟩ := newest ended ⟨1, by simp [first]⟩
  exact ⟨free, idle, touched idle, scan, report, finished, kept, greatest⟩

end RouteAtlas.Interleaving
