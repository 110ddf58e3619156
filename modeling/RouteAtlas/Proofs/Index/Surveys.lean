import RouteAtlas.Proofs.Index.Callers
import RouteAtlas.Proofs.Index.Supersession

namespace RouteAtlas.Interleaving

def Mirrors (catalogue : Catalogue) (path : Path) : Option MemoryFile → Option CacheEntry → Prop
  | none, entry? => entry? = none
  | some file, none => catalogue.select? path file.content = none
  | some file, some entry => entry.modified = file.modified

/-- What a scan knows of one of its paths, as far as it is about the file at `path`. -/
def Look.Accurate (catalogue : Catalogue) (path : Path) (file? : Option MemoryFile) (other : Path) :
    Look → Prop
  | .unseen => other.same path → ∃ file, file? = some file
  | .stamped modified => other.same path → ∃ file, file? = some file ∧ file.modified = modified
  | .settled result => (∀ entry, result = .taken entry → entry.path = other) ∧
    (other.same path → ∃ file, file? = some file ∧
      result = .ofContent catalogue other file.modified file.content)

structure Accurate (catalogue : Catalogue) (path : Path) (file? : Option MemoryFile)
    (files : List (Path × Look)) : Prop where
  looks : ∀ item ∈ files, item.2.Accurate catalogue path file? item.1
  listed : ∀ {file}, file? = some file → ∃ item ∈ files, item.1.same path

def Action.isNotice : Action → Bool
  | .list _ | .publish _ | .enter _ _ | .delete _ _ _ => true
  | _ => false

/-- A scan that will publish unless a later one starts. -/
def Candidate (s : System) (scan : Nat) : Prop :=
  s.lock = .publishing scan ∨
    scan = s.index.generation ∧ (s.lock = .deciding scan ∨ ∃ files, s.scans scan = .looking files)

/-- No scan that knows of the last change of a file has published, and the file is noted as touched
if someone has looked at it. -/
def Noted (path : Path) (history : List Action) (s : System) : Prop :=
  (∀ scan, .list scan ∈ since path history → .publish scan ∉ history) ∧
    (Touched path history → ∃ other ∈ s.index.touched, other.same path)

section Accurate

variable {catalogue : Catalogue} {path : Path} {memory : MemoryFiles}

theorem Accurate.ofList (handled : catalogue.handles path) :
    Accurate catalogue path (memory.file? path)
      ((memory.source.list catalogue.extensions).map fun path => (path, .unseen)) := by
  constructor
  · intro item member
    obtain ⟨other, listed, rfl⟩ := List.mem_map.mp member
    intro same
    rw [← MemoryFiles.file?_congr memory same]
    exact MemoryFiles.exists_file?_of_mem_list listed
  · intro file found
    obtain ⟨other, listed, same⟩ := MemoryFiles.exists_same_list found handled
    exact ⟨(other, .unseen), List.mem_map_of_mem listed, same⟩

theorem Accurate.set {file? : Option MemoryFile} {files : List (Path × Look)} {position : Nat}
    {other : Path} {old look : Look} (accurate : Accurate catalogue path file? files)
    (item : files[position]? = some (other, old))
    (known : look.Accurate catalogue path file? other) :
    Accurate catalogue path file? (files.set position (other, look)) := by
  constructor
  · intro changed member
    rcases List.mem_or_eq_of_mem_set member with member | rfl
    · exact accurate.looks changed member
    · exact known
  · intro file found
    obtain ⟨⟨place, seen⟩, member, same⟩ := accurate.listed found
    obtain ⟨index, bound, stored⟩ := List.mem_iff_getElem.mp member
    by_cases here : position = index
    · subst here
      rw [List.getElem?_eq_getElem bound, stored] at item
      cases item
      exact ⟨(other, look), List.mem_set bound _, same⟩
    · refine ⟨(place, seen), ?_, same⟩
      have kept : (files.set position (other, look))[index]? = some (place, seen) := by
        rw [List.getElem?_set_ne here, List.getElem?_eq_getElem bound, stored]
      exact List.mem_of_getElem? kept

theorem Look.Accurate.of_stat {other : Path}
    (known : Look.Accurate catalogue path (memory.file? path) other .unseen) :
    (Look.ofStamp (memory.source.modified other)).Accurate catalogue path (memory.file? path)
      other := by
  cases answer : memory.source.modified other with
  | ok modified =>
    intro same
    rw [← MemoryFiles.file?_congr memory same]
    exact (MemoryFiles.modified_eq_ok_iff _ _ _).mp answer
  | error fault =>
    refine ⟨by simp, ?_⟩
    intro same
    -- the file was there when the list was taken, and has not changed since
    obtain ⟨file, found⟩ := known same
    rw [← MemoryFiles.file?_congr memory same,
      ((MemoryFiles.modified_eq_error_iff _ _ _).mp answer).1] at found
    cases found

theorem Look.Accurate.of_read {other : Path} {modified : Stamp}
    (known : Look.Accurate catalogue path (memory.file? path) other (.stamped modified)) :
    (Look.settled (.ofRead catalogue other modified (memory.source.read other))).Accurate catalogue
      path (memory.file? path) other := by
  constructor
  · intro entry taken
    cases answer : memory.source.read other with
    | error fault => simp [answer, FileResult.ofRead] at taken
    | ok content =>
      simp only [answer, FileResult.ofRead, FileResult.ofContent] at taken
      split at taken
      · cases taken
        rfl
      · cases taken
  · intro same
    obtain ⟨file, found, rfl⟩ := known same
    have read : memory.source.read other = .ok file.content := by
      rw [MemoryFiles.read_eq_ok_iff, MemoryFiles.file?_congr memory same]
      exact ⟨file, found, rfl⟩
    exact ⟨file, found, by rw [read]; rfl⟩

/-- What an accurate scan would publish is right. -/
theorem Accurate.mirrors {file? : Option MemoryFile} {files : List (Path × Look)}
    {results : List FileResult} (accurate : Accurate catalogue path file? files)
    (settled : files.map Prod.snd = results.map .settled) :
    Mirrors catalogue path file?
      (Snapshot.get? ⟨results.filterMap FileResult.taken?⟩ path) := by
  have look : ∀ result ∈ results, ∃ other, (other, Look.settled result) ∈ files := by
    intro result member
    have mapped : Look.settled result ∈ files.map Prod.snd := by
      rw [settled]
      exact List.mem_map_of_mem member
    obtain ⟨⟨other, seen⟩, member, rfl⟩ := List.mem_map.mp mapped
    exact ⟨other, member⟩
  cases held : Snapshot.get? ⟨results.filterMap FileResult.taken?⟩ path with
  | some entry =>
    obtain ⟨result, member, taken⟩ := List.mem_filterMap.mp (Snapshot.mem_of_get? held)
    have same := Snapshot.same_of_get? held
    have shape : result = .taken entry := by cases result <;> simp_all [FileResult.taken?]
    subst shape
    obtain ⟨other, listed⟩ := look _ member
    obtain ⟨named, current⟩ := accurate.looks _ listed
    rw [named entry rfl] at same
    obtain ⟨file, found, made⟩ := current same
    rw [found]
    unfold FileResult.ofContent at made
    split at made
    · rw [FileResult.taken.inj made]
      rfl
    · cases made
  | none =>
    cases found : file? with
    | none => rfl
    | some file =>
      obtain ⟨⟨other, seen⟩, listed, same⟩ := accurate.listed found
      have mapped : seen ∈ results.map Look.settled := by
        rw [← settled]
        exact List.mem_map_of_mem listed
      obtain ⟨result, member, rfl⟩ := List.mem_map.mp mapped
      obtain ⟨current, present, made⟩ := (accurate.looks _ listed).2 same
      rw [found] at present
      cases present
      simp only [Mirrors]
      rw [← Catalogue.select?_congr catalogue same, ← Catalogue.endpoints?_eq_none_iff]
      cases taken : catalogue.endpoints? other file.content with
      | none => rfl
      | some endpoints =>
        -- the entry of the file would have been found
        simp only [FileResult.ofContent, taken] at made
        subst made
        have absent := List.find?_eq_none.mp held ⟨other, file.modified, endpoints⟩
          (List.mem_filterMap.mpr ⟨_, member, rfl⟩)
        exact absurd same absent

end Accurate

/-- What running scans know of one file. -/
structure Surveyed (catalogue : Catalogue) (path : Path) (history : List Action) (s : System) :
    Prop where
  looking : ∀ {scan files}, .list scan ∈ since path history → s.scans scan = .looking files →
    Accurate catalogue path (s.memory.file? path) files
  closing : ∀ {scan results}, .list scan ∈ since path history → s.scans scan = .closing results →
    Mirrors catalogue path (s.memory.file? path)
      (Snapshot.get? ⟨results.filterMap FileResult.taken?⟩ path)
  stale : ∀ {scan}, Candidate s scan → .list scan ∉ since path history → Noted path history s

namespace Surveyed

variable {catalogue : Catalogue} {path : Path} {history : List Action} {s t : System}
  {action : Action}

theorem initial : Surveyed catalogue path [] (.initial catalogue) := by
  constructor
  · simp [System.initial]
  · simp [System.initial]
  · simp [Candidate, System.initial]

theorem of_changes (change : action.changes path) : Surveyed catalogue path (action :: history) t := by
  have empty : since path (action :: history) = [] := since_of_changes change
  constructor
  · simp [empty]
  · simp [empty]
  · intro scan _ _
    refine ⟨by simp [empty], ?_⟩
    rintro ⟨ticket, other, same, member⟩
    simp [empty] at member

section Quiet

variable (quiet : action.changes path = false)
include quiet

theorem list_mem_since_iff (unlisted : ∀ scan, action ≠ .list scan) {scan : Nat} :
    .list scan ∈ since path (action :: history) ↔ .list scan ∈ since path history := by
  rw [since_cons quiet, List.mem_cons]
  exact or_iff_right (unlisted scan).symm

theorem noted_cons_of_not_isNotice (plain : action.isNotice = false) (noted : Noted path history s)
    (touched : t.index.touched = s.index.touched) : Noted path (action :: history) t := by
  have earlier : ∀ {notice actions}, notice.isNotice → notice ∈ action :: actions →
      notice ∈ actions := by
    intro notice actions notable member
    refine (List.mem_cons.mp member).resolve_left ?_
    rintro rfl
    rw [plain] at notable
    cases notable
  constructor
  · intro scan listed published
    rw [since_cons quiet] at listed
    exact noted.1 scan (earlier rfl listed) (earlier rfl published)
  · rintro ⟨ticket, other, same, member⟩
    rw [touched]
    refine noted.2 ⟨ticket, other, same, ?_⟩
    rw [since_cons quiet] at member
    rcases member with entered | ⟨missing, deleted⟩
    · exact .inl (earlier rfl entered)
    · exact .inr ⟨missing, earlier rfl deleted⟩

theorem of_unlisted (surveyed : Surveyed catalogue path history s)
    (unlisted : ∀ scan, action ≠ .list scan) (file : t.memory.file? path = s.memory.file? path)
    (looking : ∀ {scan files}, t.scans scan = .looking files → s.scans scan = .looking files)
    (closing : ∀ {scan results}, t.scans scan = .closing results → s.scans scan = .closing results)
    (stale : ∀ {scan}, Candidate t scan → .list scan ∉ since path history →
      Noted path (action :: history) t) :
    Surveyed catalogue path (action :: history) t := by
  constructor
  · intro scan files listed stage
    rw [file]
    exact surveyed.looking ((list_mem_since_iff quiet unlisted).mp listed) (looking stage)
  · intro scan results listed stage
    rw [file]
    exact surveyed.closing ((list_mem_since_iff quiet unlisted).mp listed) (closing stage)
  · intro scan candidate unseen
    rw [list_mem_since_iff quiet unlisted] at unseen
    exact stale candidate unseen

theorem of_not_isNotice (surveyed : Surveyed catalogue path history s) (plain : action.isNotice = false)
    (file : t.memory.file? path = s.memory.file? path)
    (looking : ∀ {scan files}, t.scans scan = .looking files → s.scans scan = .looking files)
    (closing : ∀ {scan results}, t.scans scan = .closing results → s.scans scan = .closing results)
    (candidates : ∀ {scan}, Candidate t scan → Candidate s scan)
    (touched : t.index.touched = s.index.touched) :
    Surveyed catalogue path (action :: history) t := by
  refine surveyed.of_unlisted quiet ?_ file looking closing ?_
  · rintro scan rfl
    cases plain
  · intro scan candidate unseen
    exact noted_cons_of_not_isNotice quiet plain (surveyed.stale (candidates candidate) unseen) touched

theorem noted_cons_of_touch (noted : Noted path history s) (running : 0 < s.index.scansInFlight)
    {other : Path} (unlisted : ∀ scan, action ≠ .list scan) (unpublished : ∀ scan, action ≠ .publish scan)
    (touching : ∀ ticket place, (action = .enter ticket place ∨
      ∃ missing, action = .delete ticket place missing) → place = other)
    (touched : t.index.touched = (s.index.touch other).touched) :
    Noted path (action :: history) t := by
  constructor
  · intro scan listed published
    rw [list_mem_since_iff quiet unlisted] at listed
    rcases List.mem_cons.mp published with same | published
    · exact unpublished scan same.symm
    · exact noted.1 scan listed published
  · rintro ⟨ticket, place, same, member⟩
    rw [touched]
    rw [since_cons quiet] at member
    have earlier : Touched path history → ∃ known ∈ (s.index.touch other).touched, known.same path := by
      intro before
      obtain ⟨known, member, same⟩ := noted.2 before
      exact ⟨known, Index.mem_touch_of_mem s.index other member, same⟩
    have now : place = other → ∃ known ∈ (s.index.touch other).touched, known.same path := by
      rintro rfl
      obtain ⟨known, member, alike⟩ := Index.exists_same_touch s.index place (Nat.ne_of_gt running)
      exact ⟨known, member, Path.same_trans alike same⟩
    rcases member with entered | ⟨missing, deleted⟩
    · rcases List.mem_cons.mp entered with here | before
      · exact now (touching ticket place (.inl here.symm))
      · exact earlier ⟨ticket, place, same, .inl before⟩
    · rcases List.mem_cons.mp deleted with here | before
      · exact now (touching ticket place (.inr ⟨missing, here.symm⟩))
      · exact earlier ⟨ticket, place, same, .inr ⟨missing, before⟩⟩

theorem of_touch (surveyed : Surveyed catalogue path history s) (orderly : Orderly history s)
    {other : Path} (unlisted : ∀ scan, action ≠ .list scan)
    (unpublished : ∀ scan, action ≠ .publish scan)
    (touching : ∀ ticket place, (action = .enter ticket place ∨
      ∃ missing, action = .delete ticket place missing) → place = other)
    (unlocked : ∀ scan, t.lock ≠ .publishing scan ∧ t.lock ≠ .deciding scan)
    (memory : t.memory = s.memory) (scans : t.scans = s.scans)
    (generation : t.index.generation = s.index.generation)
    (touched : t.index.touched = (s.index.touch other).touched) :
    Surveyed catalogue path (action :: history) t := by
  refine surveyed.of_unlisted quiet unlisted (by rw [memory]) (fun found => scans ▸ found)
    (fun found => scans ▸ found) ?_
  intro scan candidate unseen
  rcases candidate with held | ⟨latest, held | ⟨files, found⟩⟩
  · exact absurd held (unlocked scan).1
  · exact absurd held (unlocked scan).2
  · rw [generation] at latest
    rw [scans] at found
    have noted := surveyed.stale (.inr ⟨latest, .inr ⟨files, found⟩⟩) unseen
    have running := orderly.scansInFlight_pos (by rw [found]; rfl)
    exact noted_cons_of_touch quiet noted running unlisted unpublished touching touched

end Quiet

section Update

variable {scans : Nat → Stage} {scan other : Nat} {stage : Stage}

theorem ne_and_eq_of_update_eq {goal : Stage} (differ : stage ≠ goal)
    (found : Function.update scans scan stage other = goal) : other ≠ scan ∧ scans other = goal := by
  by_cases here : other = scan
  · subst here
    rw [Function.update_self] at found
    exact absurd found differ
  · rw [Function.update_of_ne here] at found
    exact ⟨here, found⟩

theorem eq_of_update_eq {goal : Stage} (differ : stage ≠ goal)
    (found : Function.update scans scan stage other = goal) : scans other = goal :=
  (ne_and_eq_of_update_eq differ found).2

theorem candidate_of_update {goal : Nat} (differ : ∀ files, stage ≠ .looking files)
    (lock : t.lock = s.lock) (generation : t.index.generation = s.index.generation)
    (moved : t.scans = Function.update s.scans scan stage) (candidate : Candidate t goal) :
    Candidate s goal := by
  rcases candidate with locked | ⟨latest, locked | ⟨files, found⟩⟩
  · exact .inl (lock ▸ locked)
  · exact .inr ⟨generation ▸ latest, .inl (lock ▸ locked)⟩
  · rw [moved] at found
    exact .inr ⟨generation ▸ latest, .inr ⟨files, eq_of_update_eq (differ files) found⟩⟩

end Update

theorem list (surveyed : Surveyed catalogue path history s) (orderly : Orderly history s)
    (fixed : s.index.catalogue = catalogue) (handled : catalogue.handles path) {scan : Nat}
    (stage : s.scans scan = .registered) :
    Surveyed catalogue path (.list scan :: history) (s.setScan scan (.looking
      ((s.memory.source.list s.index.catalogue.extensions).map fun path => (path, .unseen)))) := by
  have quiet : Action.changes path (.list scan) = false := rfl
  have unpublished : .publish scan ∉ history :=
    orderly.publish_notMem (by simp [stage, Stage.isPublished])
  have earlier : ∀ {other}, other ≠ scan → .list other ∈ since path (.list scan :: history) →
      .list other ∈ since path history := by
    intro other differ member
    rw [since_cons quiet, List.mem_cons] at member
    refine member.resolve_left ?_
    intro same
    cases same
    exact differ rfl
  constructor
  · intro other files member found
    by_cases here : other = scan
    · subst here
      rw [System.setScan_self] at found
      cases found
      rw [fixed]
      exact Accurate.ofList handled
    · rw [System.setScan_of_ne _ _ here] at found
      exact surveyed.looking (earlier here member) found
  · intro other results member found
    obtain ⟨here, found⟩ := ne_and_eq_of_update_eq (by simp) found
    exact surveyed.closing (earlier here member) found
  · intro other candidate unseen
    rw [since_cons quiet, List.mem_cons, not_or] at unseen
    have differ : other ≠ scan := fun same => unseen.1 (by rw [same])
    have noted : Noted path history s := by
      refine surveyed.stale ?_ unseen.2
      rcases candidate with locked | ⟨latest, locked | ⟨files, found⟩⟩
      · exact .inl locked
      · exact .inr ⟨latest, .inl locked⟩
      · rw [System.setScan_of_ne _ _ differ] at found
        exact .inr ⟨latest, .inr ⟨files, found⟩⟩
    constructor
    · intro later listed published
      replace published := (List.mem_cons.mp published).resolve_left (by simp)
      by_cases here : later = scan
      · subst here
        exact unpublished published
      · exact noted.1 later (earlier here listed) published
    · rintro ⟨ticket, place, same, member⟩
      refine noted.2 ⟨ticket, place, same, ?_⟩
      simpa [since_cons quiet] using member

theorem of_kept_of_unlocked (surveyed : Surveyed catalogue path history s)
    (quiet : action.changes path = false) (plain : action.isNotice = false)
    (unlisted : ∀ scan, action ≠ .list scan) (memory : t.memory = s.memory)
    (scans : t.scans = s.scans) (kept : Index.Kept s.index t.index)
    (unlocked : t.lock.closer? = none) : Surveyed catalogue path (action :: history) t := by
  refine surveyed.of_unlisted quiet unlisted (by rw [memory]) (by rw [scans]; exact id)
    (by rw [scans]; exact id) ?_
  intro scan candidate unseen
  refine noted_cons_of_not_isNotice quiet plain (surveyed.stale ?_ unseen) kept.touched
  rcases candidate with held | ⟨latest, held | found⟩
  · rw [held] at unlocked
    cases unlocked
  · rw [held] at unlocked
    cases unlocked
  · rw [scans] at found
    exact .inr ⟨latest.trans kept.generation, .inr found⟩

theorem setScan_looking (surveyed : Surveyed catalogue path history s)
    (quiet : action.changes path = false) (plain : action.isNotice = false)
    (unlisted : ∀ scan, action ≠ .list scan) {scan position : Nat}
    {files : List (Path × Look)} {other : Path} {old look : Look}
    (stage : s.scans scan = .looking files) (item : files[position]? = some (other, old))
    (known : old.Accurate catalogue path (s.memory.file? path) other →
      look.Accurate catalogue path (s.memory.file? path) other) :
    Surveyed catalogue path (action :: history)
      (s.setScan scan (.looking (files.set position (other, look)))) := by
  constructor
  · intro one found listed here
    rw [list_mem_since_iff quiet unlisted] at listed
    by_cases same : one = scan
    · subst same
      rw [System.setScan_self] at here
      cases here
      have accurate := surveyed.looking listed stage
      exact accurate.set item (known (accurate.looks _ (List.mem_of_getElem? item)))
    · rw [System.setScan_of_ne _ _ same] at here
      exact surveyed.looking listed here
  · intro one results listed here
    rw [list_mem_since_iff quiet unlisted] at listed
    exact surveyed.closing listed (eq_of_update_eq (by simp) here)
  · intro one candidate unseen
    rw [list_mem_since_iff quiet unlisted] at unseen
    refine noted_cons_of_not_isNotice quiet plain (surveyed.stale ?_ unseen) rfl
    rcases candidate with locked | ⟨latest, locked | ⟨files, found⟩⟩
    · exact .inl locked
    · exact .inr ⟨latest, .inl locked⟩
    · refine .inr ⟨latest, .inr ?_⟩
      by_cases same : one = scan
      · subst same
        exact ⟨_, stage⟩
      · rw [System.setScan_of_ne _ _ same] at found
        exact ⟨files, found⟩

theorem close (surveyed : Surveyed catalogue path history s) {scan : Nat}
    {files : List (Path × Look)} {results : List FileResult}
    (stage : s.scans scan = .looking files)
    (settled : files.map Prod.snd = results.map .settled) :
    Surveyed catalogue path (.close scan :: history)
      ({ s with index := s.index.unregister, lock := .deciding scan }.setScan scan
        (.closing results)) := by
  have quiet : Action.changes path (.close scan) = false := rfl
  constructor
  · intro other found listed here
    rw [list_mem_since_iff quiet (by simp)] at listed
    exact surveyed.looking listed (eq_of_update_eq (by simp) here)
  · intro other found listed here
    rw [list_mem_since_iff quiet (by simp)] at listed
    by_cases same : other = scan
    · subst same
      rw [System.setScan_self] at here
      cases here
      exact (surveyed.looking listed stage).mirrors settled
    · rw [System.setScan_of_ne _ _ same] at here
      exact surveyed.closing listed here
  · intro other candidate unseen
    rw [list_mem_since_iff quiet (by simp)] at unseen
    refine noted_cons_of_not_isNotice quiet rfl (surveyed.stale ?_ unseen) rfl
    rcases candidate with locked | ⟨latest, locked | ⟨files, found⟩⟩
    · cases locked
    · cases locked
      exact .inr ⟨latest, .inr ⟨_, stage⟩⟩
    · exact .inr ⟨latest, .inr ⟨files, eq_of_update_eq (by simp) found⟩⟩

theorem publish (surveyed : Surveyed catalogue path history s) (orderly : Orderly history s)
    {scan : Nat} {results : List FileResult} (locked : s.lock = .publishing scan)
    (stage : s.scans scan = .closing results) :
    Surveyed catalogue path (.publish scan :: history)
      ({ s with
        index := s.index.replaceEntries (results.filterMap FileResult.taken?)
        lock := .replaying scan s.index.touched }.setScan scan (.published results)) := by
  refine surveyed.of_unlisted rfl (by simp) rfl ?_ ?_ ?_
  · exact eq_of_update_eq (by simp)
  · exact eq_of_update_eq (by simp)
  · intro other candidate _
    have unlocked := closer?_replaying scan s.index.touched
    rcases candidate with held | ⟨latest, held | ⟨files, found⟩⟩
    · rw [show Lock.replaying scan s.index.touched = .publishing other from held] at unlocked
      cases unlocked
    · rw [show Lock.replaying scan s.index.touched = .deciding other from held] at unlocked
      cases unlocked
    · -- a scan after this one has not even registered, and one before it is not the latest
      obtain ⟨differ, before⟩ := ne_and_eq_of_update_eq (by simp) found
      replace before : s.scans other = .looking files := before
      replace latest : other = s.index.generation := latest
      have bound := orderly.le_generation (by rw [stage]; simp)
      have later := orderly.later locked (by omega : scan < other)
      simp [before] at later

theorem step (surveyed : Surveyed catalogue path history s) (orderly : Orderly history s)
    (fixed : s.index.catalogue = catalogue) (handled : catalogue.handles path)
    (next : Step s action t) : Surveyed catalogue path (action :: history) t := by
  by_cases change : action.changes path
  · exact of_changes change
  have quiet : action.changes path = false := by simpa using change
  have file := next.file?_eq quiet
  cases next with
  | tick | store | erase => exact surveyed.of_not_isNotice quiet rfl file id id id rfl
  | call request new => exact surveyed.of_not_isNotice quiet rfl rfl id id id rfl
  | number =>
    refine surveyed.of_not_isNotice quiet rfl rfl (eq_of_update_eq (by simp))
      (eq_of_update_eq (by simp)) ?_ rfl
    intro scan candidate
    rcases candidate with locked | ⟨latest, locked | ⟨files, found⟩⟩
    · exact .inl locked
    · -- a scan that closes has its number already
      replace locked : s.lock = .deciding scan := locked
      obtain ⟨results, stage⟩ := orderly.closing.mpr (by rw [locked]; rfl)
      have bound := orderly.le_generation (by rw [stage]; simp)
      have newest : scan = s.index.generation + 1 := latest
      omega
    · exact absurd latest (ne_and_eq_of_update_eq (by simp) found).1
  | register free stage =>
    exact surveyed.of_not_isNotice quiet rfl rfl (eq_of_update_eq (by simp))
      (eq_of_update_eq (by simp)) (candidate_of_update (by simp) rfl rfl rfl) rfl
  | list stage => exact surveyed.list orderly fixed handled stage
  | stat stage item =>
    exact surveyed.setScan_looking quiet rfl (by simp) stage item Look.Accurate.of_stat
  | read stage item =>
    rw [fixed]
    exact surveyed.setScan_looking quiet rfl (by simp) stage item Look.Accurate.of_read
  | close free stage settled => exact surveyed.close stage settled
  | discard locked stage outdated =>
    refine surveyed.of_unlisted quiet (by simp) rfl
      (eq_of_update_eq (by simp)) (eq_of_update_eq (by simp)) ?_
    intro scan candidate unseen
    rcases candidate with held | ⟨latest, held | ⟨files, found⟩⟩
    · cases held
    · cases held
    · have before : s.scans scan = .looking files := eq_of_update_eq (by simp) found
      have noted := surveyed.stale (.inr ⟨latest, .inr ⟨files, before⟩⟩) unseen
      have running := orderly.scansInFlight_pos (by rw [before]; rfl)
      refine noted_cons_of_not_isNotice quiet rfl noted ?_
      simp [System.setScan, Index.discardScan, Nat.ne_of_gt running]
  | accept locked latest =>
    refine surveyed.of_not_isNotice quiet rfl rfl id id ?_ rfl
    intro scan candidate
    rcases candidate with held | ⟨newest, held | found⟩
    · cases held
      exact .inr ⟨latest, .inl locked⟩
    · cases held
    · exact .inr ⟨newest, .inr found⟩
  | publish locked stage => exact surveyed.publish orderly locked stage
  | report unlocked stage =>
    exact surveyed.of_not_isNotice quiet rfl rfl (eq_of_update_eq (by simp))
      (eq_of_update_eq (by simp)) (candidate_of_update (by simp) rfl rfl rfl) rfl
  | @enter ticket place watched free state =>
    exact surveyed.of_touch quiet orderly (by simp) (by simp) (by simp) (by simp [System.setCall]) rfl
      rfl (by simp [System.setCall]) rfl
  | @delete ticket place missing free state =>
    have kept := Index.kept_remove (s.index.touch place) place
    exact surveyed.of_touch quiet orderly (by simp) (by simp) (by simp)
      (by simp [System.setCall, free]) rfl rfl (kept.generation.trans (by simp)) kept.touched
  | @glance visitor place locked =>
    exact surveyed.of_kept_of_unlocked quiet rfl (by simp) (by simp) (by simp)
      (s.glance_kept visitor place) (Orderly.closer?_glance s visitor place)
  | @fetch visitor place modified locked =>
    exact surveyed.of_kept_of_unlocked quiet rfl (by simp) (by simp) (by simp)
      (s.fetch_kept visitor place modified) (Orderly.closer?_endVisit s visitor place _)

end Surveyed

end RouteAtlas.Interleaving
