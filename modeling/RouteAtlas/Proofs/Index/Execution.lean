import RouteAtlas.Proofs.Index.Interleaving

namespace RouteAtlas.Interleaving

def results? : List (Path × Look) → Option (List FileResult)
  | [] => some []
  | (_, .settled result) :: rest => (results? rest).map (result :: ·)
  | _ => none

theorem results?_eq_some_iff (files : List (Path × Look)) (results : List FileResult) :
    results? files = some results ↔ files.map Prod.snd = results.map .settled := by
  induction files generalizing results with
  | nil => cases results <;> simp [results?]
  | cons item rest ih =>
    obtain ⟨path, look⟩ := item
    cases look with
    | unseen => cases results <;> simp [results?]
    | stamped modified => cases results <;> simp [results?]
    | settled result =>
      cases results with
      | nil => simp [results?]
      | cons head tail =>
        simp only [results?, Option.map_eq_some_iff, ih, List.map_cons, List.cons.injEq,
          Look.settled.injEq]
        constructor
        · rintro ⟨others, settled, rfl, rfl⟩
          exact ⟨rfl, settled⟩
        · rintro ⟨rfl, settled⟩
          exact ⟨tail, settled, rfl, rfl⟩

namespace System

def perform? (s : System) : Action → Option System
  | .tick path content =>
    some { s with
      memory := s.memory.tick.2
      pending := ⟨path, s.memory.tick.1, content⟩ :: s.pending }
  | .store file =>
    if file ∈ s.pending then
      some { s with memory := s.memory.store file, pending := s.pending.erase file }
    else none
  | .erase path =>
    match s.memory.file? path with
    | some _ => some { s with memory := s.memory.remove path }
    | none => none
  | .number =>
    some ({ s with index := s.index.takeGeneration.2 }.setScan s.index.takeGeneration.1 .numbered)
  | .register scan =>
    match s.lock, s.scans scan with
    | .free, .numbered => some ({ s with index := s.index.register }.setScan scan .registered)
    | _, _ => none
  | .list scan =>
    match s.scans scan with
    | .registered => some (s.setScan scan (.looking
      ((s.memory.source.list s.index.catalogue.extensions).map fun path => (path, .unseen))))
    | _ => none
  | .stat scan position =>
    match s.scans scan with
    | .looking files =>
      match files[position]? with
      | some (path, .unseen) => some (s.setScan scan (.looking
        (files.set position (path, .ofStamp (s.memory.source.modified path)))))
      | _ => none
    | _ => none
  | .read scan position =>
    match s.scans scan with
    | .looking files =>
      match files[position]? with
      | some (path, .stamped modified) => some (s.setScan scan (.looking (files.set position
        (path, .settled (.ofRead s.index.catalogue path modified (s.memory.source.read path))))))
      | _ => none
    | _ => none
  | .close scan =>
    match s.lock, s.scans scan with
    | .free, .looking files => (results? files).map fun results =>
      { s with index := s.index.unregister, lock := .deciding scan }.setScan scan (.closing results)
    | _, _ => none
  | .discard scan =>
    match s.lock, s.scans scan with
    | .deciding holder, .closing results =>
      if holder = scan ∧ scan ≠ s.index.generation then
        some ({ s with index := s.index.discardScan, lock := .free }.setScan scan
          (.finished (Index.discardedReport results)))
      else none
    | _, _ => none
  | .accept scan =>
    match s.lock with
    | .deciding holder =>
      if holder = scan ∧ scan = s.index.generation then some { s with lock := .publishing scan }
      else none
    | _ => none
  | .publish scan =>
    match s.lock, s.scans scan with
    | .publishing holder, .closing results =>
      if holder = scan then
        some ({ s with
          index := s.index.replaceEntries (results.filterMap FileResult.taken?)
          lock := .replaying scan s.index.touched }.setScan scan (.published results))
      else none
    | _, _ => none
  | .report scan =>
    match s.scans scan with
    | .published results =>
      if s.lock.scan? = some scan then none
      else some (s.setScan scan (.finished (s.index.publishedReport results)))
    | _ => none
  | .call ticket request =>
    match s.calls ticket with
    | none => some (s.setCall ticket (.ofRequest s.index.catalogue request))
    | some _ => none
  | .enter ticket path =>
    match s.lock, s.calls ticket with
    | .free, some (.changing waiting watched) =>
      if waiting = path then
        some ({ s with
          index := s.index.touch path
          lock := .visiting (.call ticket watched) path none }.setCall ticket .inside)
      else none
    | _, _ => none
  | .delete ticket path missing =>
    match s.lock, s.calls ticket with
    | .free, some (.deleting waiting known) =>
      if waiting = path ∧ known = missing then
        some ({ s with index := (s.index.deleted path).1 }.setCall ticket .ended)
      else none
    | _, _ => none
  | .glance =>
    match s.lock with
    | .visiting visitor path none => some (s.glance visitor path)
    | _ => none
  | .fetch =>
    match s.lock with
    | .visiting visitor path (some modified) => some (s.fetch visitor path modified)
    | _ => none

def performAll? (s : System) : List Action → Option System
  | [] => some s
  | action :: earlier => (performAll? s earlier).bind (·.perform? action)

end System

theorem Step.of_perform? {s t : System} {action : Action} (done : s.perform? action = some t) :
    Step s action t := by
  cases action <;> simp only [System.perform?] at done
  case tick path content =>
    cases done
    exact .tick path content
  case store file =>
    split at done
    · cases done
      exact .store ‹_›
    · cases done
  case erase path =>
    split at done
    · cases done
      exact .erase ‹_›
    · cases done
  case number =>
    cases done
    exact .number
  case register scan =>
    split at done
    · cases done
      exact .register ‹_› ‹_›
    · cases done
  case list scan =>
    split at done
    · cases done
      exact .list ‹_›
    · cases done
  case stat scan position =>
    split at done
    · split at done
      · cases done
        exact .stat ‹_› ‹_›
      · cases done
    · cases done
  case read scan position =>
    split at done
    · split at done
      · cases done
        exact .read ‹_› ‹_›
      · cases done
    · cases done
  case close scan =>
    split at done
    · obtain ⟨results, settled, rfl⟩ := Option.map_eq_some_iff.mp done
      exact .close ‹_› ‹_› ((results?_eq_some_iff _ results).mp settled)
    · cases done
  case discard scan =>
    split at done
    · split at done
      · rename_i conditions
        obtain ⟨rfl, outdated⟩ := conditions
        cases done
        exact .discard ‹_› ‹_› outdated
      · cases done
    · cases done
  case accept scan =>
    split at done
    · split at done
      · rename_i conditions
        obtain ⟨rfl, latest⟩ := conditions
        cases done
        exact .accept ‹_› latest
      · cases done
    · cases done
  case publish scan =>
    split at done
    · split at done
      · rename_i holder
        subst holder
        cases done
        exact .publish ‹_› ‹_›
      · cases done
    · cases done
  case report scan =>
    split at done
    · split at done
      · cases done
      · cases done
        exact .report ‹_› ‹_›
    · cases done
  case call ticket request =>
    split at done
    · cases done
      exact .call request ‹_›
    · cases done
  case enter ticket path =>
    split at done
    · split at done
      · rename_i waiting
        subst waiting
        cases done
        exact .enter ‹_› ‹_›
      · cases done
    · cases done
  case delete ticket path missing =>
    split at done
    · split at done
      · rename_i conditions
        obtain ⟨rfl, rfl⟩ := conditions
        cases done
        exact .delete ‹_› ‹_›
      · cases done
    · cases done
  case glance =>
    split at done
    · cases done
      exact .glance ‹_›
    · cases done
  case fetch =>
    split at done
    · cases done
      exact .fetch ‹_›
    · cases done

theorem Run.of_performAll? {catalogue : Catalogue} {actions : List Action} {s : System}
    (done : (System.initial catalogue).performAll? actions = some s) :
    Run catalogue (fun _ _ => True) actions s := by
  induction actions generalizing s with
  | nil =>
    cases done
    exact .start
  | cons action earlier ih =>
    obtain ⟨before, past, last⟩ := Option.bind_eq_some_iff.mp done
    exact .step (ih past) trivial (.of_perform? last)

theorem exists_run {catalogue : Catalogue} {admits : System → Action → Prop}
    {actions : List Action} {result : System → Prop} (check : System → Prop) [DecidablePred check]
    (done : ((System.initial catalogue).performAll? actions).any (fun s => check s))
    (admitted : ∀ {s}, Run catalogue (fun _ _ => True) actions s → Run catalogue admits actions s)
    (derived : ∀ s, Run catalogue admits actions s → check s → result s) :
    ∃ s, Run catalogue admits actions s ∧ result s := by
  obtain ⟨s, performed, checked⟩ := (Option.any_eq_true _ _).mp done
  have run := admitted (.of_performAll? performed)
  exact ⟨s, run, derived s run (of_decide_eq_true checked)⟩

end RouteAtlas.Interleaving
