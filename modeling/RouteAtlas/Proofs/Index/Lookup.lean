import RouteAtlas.Index.Event
import RouteAtlas.Index.Scan
import RouteAtlas.Index.Source
import RouteAtlas.Proofs.Path.Order

namespace RouteAtlas

namespace Path

theorem same_iff (left right : Path) : left.same right ↔ left.components = right.components := by
  simp [same]

@[simp] theorem same_refl (path : Path) : path.same path := by simp [same]

theorem same_symm {left right : Path} (same : left.same right) : right.same left := by
  rw [same_iff] at same ⊢
  exact same.symm

theorem same_trans {first second third : Path} (left : first.same second)
    (right : second.same third) : first.same third := by
  rw [same_iff] at left right ⊢
  exact left.trans right

theorem same_comm (left right : Path) : left.same right = right.same left := by
  simp [same, Bool.beq_comm]

theorem same_congr {left right : Path} (same : left.same right) (other : Path) :
    other.same left = other.same right := by
  rw [same_iff] at same
  simp [Path.same, same]

theorem compare_eq_iff (left right : Path) : left.compare right = .eq ↔ left.same right := by
  rw [same_iff, compare, compareSteps_eq_iff]

theorem extension?_congr {left right : Path} (same : left.same right) :
    left.extension? = right.extension? := by
  rw [same_iff] at same
  simp [extension?, fileName?, same]

end Path

theorem exists_same_insertPath (path : Path) (paths : List Path) :
    ∃ other ∈ insertPath path paths, other.same path := by
  induction paths with
  | nil => exact ⟨path, by simp [insertPath], by simp⟩
  | cons head tail ih =>
    cases order : path.compare head with
    | lt => exact ⟨path, by simp [insertPath, order], by simp⟩
    | eq =>
      have same := (Path.compare_eq_iff path head).mp order
      exact ⟨head, by simp [insertPath, order], Path.same_symm same⟩
    | gt =>
      obtain ⟨other, member, same⟩ := ih
      exact ⟨other, by simp [insertPath, order, member], same⟩

theorem mem_insertPath_of_mem {path other : Path} {paths : List Path} (member : other ∈ paths) :
    other ∈ insertPath path paths := by
  induction paths with
  | nil => simp at member
  | cons head tail ih =>
    simp only [insertPath]
    rcases List.mem_cons.mp member with rfl | member
    · split <;> simp
    · split <;> simp [member, ih member]

theorem find?_filter_not_same {α : Type} (key : α → Path) (items : List α) (dropped path : Path) :
    (items.filter fun item => !(key item).same dropped).find? (fun item => (key item).same path) =
      if dropped.same path then none else items.find? fun item => (key item).same path := by
  rw [List.find?_filter]
  by_cases same : dropped.same path
  · rw [if_pos same, List.find?_eq_none]
    intro item _
    have heads : (key item).same dropped = (key item).same path := Path.same_congr same _
    simp [heads]
  · rw [if_neg same]
    congr 1
    funext item
    by_cases found : (key item).same path
    · have differ : ¬ (key item).same dropped := fun h =>
        same (Path.same_trans (Path.same_symm h) found)
      simp [found, differ]
    · simp [found]

namespace MemoryFiles

theorem find?_insertFile (file : MemoryFile) (files : List MemoryFile) (path : Path) :
    ∃ spelling : Path, spelling.same file.path ∧
      (insertFile file files).find? (fun other => other.path.same path) =
        if file.path.same path then some { file with path := spelling }
        else files.find? fun other => other.path.same path := by
  induction files with
  | nil => exact ⟨file.path, by simp, by by_cases same : file.path.same path <;> simp [insertFile, same]⟩
  | cons head tail ih =>
    cases order : file.path.compare head.path with
    | lt =>
      refine ⟨file.path, by simp, ?_⟩
      by_cases same : file.path.same path <;> simp [insertFile, order, same]
    | eq =>
      have same := (Path.compare_eq_iff file.path head.path).mp order
      refine ⟨head.path, Path.same_symm same, ?_⟩
      have heads : head.path.same path = file.path.same path := by
        rw [Path.same_comm, Path.same_comm file.path, Path.same_congr same]
      by_cases found : file.path.same path <;> simp [insertFile, order, heads, found]
    | gt =>
      have differ : ¬ file.path.same head.path := by
        rw [← Path.compare_eq_iff, order]
        simp
      obtain ⟨spelling, spelled, found⟩ := ih
      refine ⟨spelling, spelled, ?_⟩
      simp only [insertFile, order, List.find?_cons]
      by_cases atHead : head.path.same path
      · have elsewhere : ¬ file.path.same path := fun same =>
          differ (Path.same_trans same (Path.same_symm atHead))
        simp [atHead, elsewhere]
      · simp [atHead, found]

theorem file?_store (memory : MemoryFiles) (file : MemoryFile) (path : Path) :
    ∃ spelling : Path, spelling.same file.path ∧
      (memory.store file).file? path =
        if file.path.same path then some { file with path := spelling } else memory.file? path :=
  find?_insertFile file memory.files path

theorem file?_remove (memory : MemoryFiles) (removed path : Path) :
    (memory.remove removed).file? path = if removed.same path then none else memory.file? path :=
  find?_filter_not_same MemoryFile.path memory.files removed path

theorem file?_congr (memory : MemoryFiles) {left right : Path} (same : left.same right) :
    memory.file? left = memory.file? right := by
  simp only [file?, Path.same_congr same]

theorem same_of_file? {memory : MemoryFiles} {path : Path} {file : MemoryFile}
    (found : memory.file? path = some file) : file.path.same path := by
  simpa using List.find?_some found

@[simp] theorem file?_tick (memory : MemoryFiles) (path : Path) :
    memory.tick.2.file? path = memory.file? path := rfl

theorem mem_list_iff (memory : MemoryFiles) (extensions : List Text) (path : Path) :
    path ∈ memory.source.list extensions ↔
      (∃ file ∈ memory.files, file.path = path) ∧ path.extension?.any extensions.contains := by
  simp [source]

theorem exists_file?_of_mem_list {memory : MemoryFiles} {extensions : List Text} {path : Path}
    (member : path ∈ memory.source.list extensions) : ∃ file, memory.file? path = some file := by
  obtain ⟨⟨file, stored, rfl⟩, _⟩ := (mem_list_iff memory extensions path).mp member
  have found : (memory.file? file.path).isSome := List.find?_isSome.mpr ⟨file, stored, by simp⟩
  exact Option.isSome_iff_exists.mp found

theorem exists_same_list {memory : MemoryFiles} {catalogue : Catalogue} {path : Path}
    {file : MemoryFile} (found : memory.file? path = some file) (handled : catalogue.handles path) :
    ∃ other ∈ memory.source.list catalogue.extensions, other.same path := by
  have same := same_of_file? found
  refine ⟨file.path, ?_, same⟩
  rw [mem_list_iff]
  refine ⟨⟨file, List.mem_of_find?_eq_some found, rfl⟩, ?_⟩
  rw [Path.extension?_congr same]
  unfold Catalogue.handles at handled
  cases extension : path.extension? with
  | none => simp [extension] at handled
  | some text => simpa [extension] using handled

theorem modified_eq_ok_iff (memory : MemoryFiles) (path : Path) (modified : Stamp) :
    memory.source.modified path = .ok modified ↔
      ∃ file, memory.file? path = some file ∧ file.modified = modified := by
  simp only [source, access]
  cases memory.file? path <;> simp

theorem modified_eq_error_iff (memory : MemoryFiles) (path : Path) (fault : Fault) :
    memory.source.modified path = .error fault ↔
      memory.file? path = none ∧ fault = ⟨true, path.spelling⟩ := by
  simp only [source, access]
  cases memory.file? path <;> simp [eq_comm]

theorem read_eq_ok_iff (memory : MemoryFiles) (path : Path) (content : Text) :
    memory.source.read path = .ok content ↔
      ∃ file, memory.file? path = some file ∧ file.content = content := by
  simp only [source, access]
  cases memory.file? path <;> simp

theorem read_eq_error_iff (memory : MemoryFiles) (path : Path) (fault : Fault) :
    memory.source.read path = .error fault ↔
      memory.file? path = none ∧ fault = ⟨true, path.spelling⟩ := by
  simp only [source, access]
  cases memory.file? path <;> simp [eq_comm]

end MemoryFiles

namespace Snapshot

theorem get?_erase (snapshot : Snapshot) (erased path : Path) :
    (snapshot.erase erased).get? path = if erased.same path then none else snapshot.get? path :=
  find?_filter_not_same CacheEntry.path snapshot.entries erased path

theorem get?_put (snapshot : Snapshot) (entry : CacheEntry) (path : Path) :
    (snapshot.put entry).get? path =
      if entry.path.same path then some entry else snapshot.get? path := by
  have erased := get?_erase snapshot entry.path path
  simp only [get?] at erased
  simp only [put, get?, List.find?_append, erased]
  by_cases same : entry.path.same path <;> simp [same]

theorem get?_congr (snapshot : Snapshot) {left right : Path} (same : left.same right) :
    snapshot.get? left = snapshot.get? right := by
  simp only [get?, Path.same_congr same]

theorem mem_of_get? {snapshot : Snapshot} {path : Path} {entry : CacheEntry}
    (found : snapshot.get? path = some entry) : entry ∈ snapshot.entries :=
  List.mem_of_find?_eq_some found

theorem same_of_get? {snapshot : Snapshot} {path : Path} {entry : CacheEntry}
    (found : snapshot.get? path = some entry) : entry.path.same path := by
  simpa using List.find?_some found

theorem mem_of_mem_erase {snapshot : Snapshot} {path : Path} {entry : CacheEntry}
    (member : entry ∈ (snapshot.erase path).entries) : entry ∈ snapshot.entries := by
  simp only [erase, List.mem_filter] at member
  exact member.1

theorem mem_put {snapshot : Snapshot} {entry other : CacheEntry}
    (member : other ∈ (snapshot.put entry).entries) : other ∈ snapshot.entries ∨ other = entry := by
  simp only [put, List.mem_append, List.mem_singleton] at member
  rcases member with member | member
  · exact .inl (mem_of_mem_erase member)
  · exact .inr member

end Snapshot

namespace Catalogue

theorem mem_insertText_iff (text other : Text) (texts : List Text) :
    other ∈ insertText text texts ↔ other = text ∨ other ∈ texts := by
  induction texts with
  | nil => simp [insertText]
  | cons head tail ih =>
    cases order : Text.compare text head with
    | lt => simp [insertText, order]
    | eq =>
      have same := (Text.compare_eq_iff text head).mp order
      subst same
      simp [insertText, order]
    | gt =>
      simp only [insertText, order, List.mem_cons, ih]
      exact or_left_comm

theorem mem_foldl_insertText_iff (texts known : List Text) (other : Text) :
    other ∈ texts.foldl (fun known text => insertText text known) known ↔
      other ∈ texts ∨ other ∈ known := by
  induction texts generalizing known with
  | nil => simp
  | cons text rest ih =>
    rw [List.foldl_cons, ih, mem_insertText_iff, List.mem_cons]
    exact or_left_comm.trans or_assoc.symm

theorem mem_extensions_iff (catalogue : Catalogue) (extension : Text) :
    extension ∈ catalogue.extensions ↔
      ∃ extractor ∈ catalogue.extractors, extension ∈ extractor.extensions := by
  simp [extensions, mem_foldl_insertText_iff]

theorem select?_congr (catalogue : Catalogue) {left right : Path} (same : left.same right)
    (content : Text) : catalogue.select? left content = catalogue.select? right content := by
  simp only [select?, Path.extension?_congr same]

theorem handles_of_select? {catalogue : Catalogue} {path : Path} {content : Text}
    {extractor : Extractor} (selected : catalogue.select? path content = some extractor) :
    catalogue.handles path := by
  simp only [select?, Option.bind_eq_bind, Option.bind_eq_some_iff] at selected
  obtain ⟨extension, found, member⟩ := selected
  have suits := List.find?_some member
  simp only [Bool.and_eq_true, List.contains_iff_mem] at suits
  simp only [handles, found, List.contains_iff_mem]
  rw [mem_extensions_iff]
  exact ⟨extractor, List.mem_of_find?_eq_some member, suits.1⟩

theorem handles_congr (catalogue : Catalogue) {left right : Path} (same : left.same right) :
    catalogue.handles left = catalogue.handles right := by
  simp only [handles, Path.extension?_congr same]

theorem endpoints?_eq_some_iff (catalogue : Catalogue) (path : Path) (content : Text)
    (endpoints : List Endpoint) :
    catalogue.endpoints? path content = some endpoints ↔
      ∃ extractor, catalogue.select? path content = some extractor ∧
        extractor.extract path content = endpoints := by
  simp [endpoints?]

theorem endpoints?_eq_none_iff (catalogue : Catalogue) (path : Path) (content : Text) :
    catalogue.endpoints? path content = none ↔ catalogue.select? path content = none := by
  simp [endpoints?]

end Catalogue

namespace Index

/-- What a look at one file leaves as it is: everything but the snapshot and the signals. -/
structure Kept (before after : Index) : Prop where
  catalogue : after.catalogue = before.catalogue
  scansInFlight : after.scansInFlight = before.scansInFlight
  touched : after.touched = before.touched
  generation : after.generation = before.generation

theorem Kept.refl (index : Index) : Kept index index := ⟨rfl, rfl, rfl, rfl⟩

theorem Kept.trans {first second third : Index} (left : Kept first second)
    (right : Kept second third) : Kept first third :=
  ⟨right.catalogue.trans left.catalogue, right.scansInFlight.trans left.scansInFlight,
    right.touched.trans left.touched, right.generation.trans left.generation⟩

theorem kept_remove (index : Index) (path : Path) : Kept index (index.remove path).1 := by
  unfold remove
  split <;> exact ⟨rfl, rfl, rfl, rfl⟩

theorem kept_refresh (index : Index) (path : Path) (modified : Stamp) (content : Text) :
    Kept index (index.refresh path modified content).1 := by
  unfold refresh
  split
  · exact ⟨rfl, rfl, rfl, rfl⟩
  · exact kept_remove index path

theorem kept_reread (index : Index) (path : Path) (modified : Stamp) (answer : Except Fault Text) :
    Kept index (index.reread path modified answer).1 := by
  cases answer with
  | error fault => exact Kept.refl index
  | ok content => exact kept_refresh index path modified content

theorem kept_afterReplay (path : Path) (result : Index × Except Fault Outcome) :
    Kept result.1 (afterReplay path result) := by
  obtain ⟨index, outcome | outcome⟩ := result
  · simp only [afterReplay]
    split
    · exact kept_remove index path
    · exact Kept.refl index
  · exact Kept.refl index

section Touch

variable (index : Index) (path : Path)

@[simp] theorem touch_catalogue : (index.touch path).catalogue = index.catalogue := by
  unfold touch
  split <;> rfl

@[simp] theorem touch_snapshot : (index.touch path).snapshot = index.snapshot := by
  unfold touch
  split <;> rfl

@[simp] theorem touch_scansInFlight : (index.touch path).scansInFlight = index.scansInFlight := by
  unfold touch
  split <;> rfl

@[simp] theorem touch_generation : (index.touch path).generation = index.generation := by
  unfold touch
  split <;> rfl

theorem exists_same_touch (running : index.scansInFlight ≠ 0) :
    ∃ other ∈ (index.touch path).touched, other.same path := by
  simp only [touch, if_neg running]
  exact exists_same_insertPath path index.touched

theorem mem_touch_of_mem {other : Path} (member : other ∈ index.touched) :
    other ∈ (index.touch path).touched := by
  unfold touch
  split
  · exact member
  · exact mem_insertPath_of_mem member

theorem touch_of_idle (idle : index.scansInFlight = 0) : index.touch path = index := by
  simp [touch, idle]

end Touch

theorem get?_remove (index : Index) (removed path : Path) :
    (index.remove removed).1.snapshot.get? path =
      if removed.same path then none else index.snapshot.get? path := by
  unfold remove
  cases found : index.snapshot.get? removed with
  | some entry => exact Snapshot.get?_erase index.snapshot removed path
  | none =>
    by_cases same : removed.same path
    · simp only [if_pos same, ← Snapshot.get?_congr index.snapshot same, found]
    · simp only [if_neg same]

theorem get?_refresh (index : Index) (path : Path) (modified : Stamp) (content : Text)
    (other : Path) :
    (index.refresh path modified content).1.snapshot.get? other =
      if path.same other then (index.catalogue.endpoints? path content).map (⟨path, modified, ·⟩)
      else index.snapshot.get? other := by
  unfold refresh
  cases index.catalogue.endpoints? path content with
  | some endpoints => exact Snapshot.get?_put index.snapshot ⟨path, modified, endpoints⟩ other
  | none => exact get?_remove index path other

theorem mem_remove {index : Index} {path : Path} {entry : CacheEntry}
    (member : entry ∈ (index.remove path).1.snapshot.entries) : entry ∈ index.snapshot.entries := by
  unfold remove at member
  split at member
  · exact Snapshot.mem_of_mem_erase member
  · exact member

theorem mem_refresh {index : Index} {path : Path} {modified : Stamp} {content : Text}
    {entry : CacheEntry}
    (member : entry ∈ (index.refresh path modified content).1.snapshot.entries) :
    entry ∈ index.snapshot.entries ∨ ∃ endpoints,
      index.catalogue.endpoints? path content = some endpoints ∧
        entry = ⟨path, modified, endpoints⟩ := by
  unfold refresh at member
  cases taken : index.catalogue.endpoints? path content with
  | some endpoints =>
    simp only [taken] at member
    rcases Snapshot.mem_put member with member | member
    · exact .inl member
    · exact .inr ⟨endpoints, rfl, member⟩
  | none =>
    simp only [taken] at member
    exact .inl (mem_remove member)

theorem isCurrent_iff (index : Index) (path : Path) (modified : Stamp) :
    index.isCurrent path modified ↔
      ∃ entry, index.snapshot.get? path = some entry ∧ entry.modified = modified := by
  simp [isCurrent, Option.any_eq_true]

end Index

end RouteAtlas
