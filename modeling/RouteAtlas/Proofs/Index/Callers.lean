import RouteAtlas.Proofs.Index.Interleaving

namespace RouteAtlas.Interleaving

/-- Only events are called for, each when all earlier calls are over. -/
def Serial (s : System) : Action → Prop
  | .call _ request => (∃ event, request = .event event) ∧
    ∀ ticket call, s.calls ticket = some call → call = .ended
  | _ => True

def Action.changes (path : Path) : Action → Bool
  | .store file => file.path.same path
  | .erase other => other.same path
  | _ => false

/-- What happened after the file at a path last changed, the latest first. -/
def since (path : Path) (history : List Action) : List Action :=
  history.takeWhile fun action => !action.changes path

/-- A call for an event about a file, started after the file last changed. -/
def Fresh (path : Path) (history : List Action) (ticket : Nat) : Prop :=
  ∃ event, .call ticket (.event event) ∈ since path history ∧ event.path.same path

/-- Someone has had the lock for a file after it last changed. -/
def Touched (path : Path) (history : List Action) : Prop :=
  ∃ ticket other, other.same path ∧ (.enter ticket other ∈ since path history ∨
    ∃ missing, .delete ticket other missing ∈ since path history)

section Since

variable {path : Path} {history : List Action} {action : Action}

theorem since_of_changes (change : action.changes path) : since path (action :: history) = [] := by
  simp [since, change]

theorem since_cons (quiet : action.changes path = false) :
    since path (action :: history) = action :: since path history := by
  simp [since, quiet]

theorem mem_of_mem_since (member : action ∈ since path history) : action ∈ history :=
  (List.takeWhile_sublist _).subset member

theorem not_fresh_of_changes (change : action.changes path) (ticket : Nat) :
    ¬ Fresh path (action :: history) ticket := by
  simp [Fresh, since_of_changes change]

theorem Touched.cons (quiet : action.changes path = false) (touched : Touched path history) :
    Touched path (action :: history) := by
  obtain ⟨ticket, other, same, entered | ⟨missing, deleted⟩⟩ := touched
  · refine ⟨ticket, other, same, .inl ?_⟩
    rw [since_cons quiet]
    exact List.mem_cons_of_mem action entered
  · refine ⟨ticket, other, same, .inr ⟨missing, ?_⟩⟩
    rw [since_cons quiet]
    exact List.mem_cons_of_mem action deleted

end Since

theorem Step.file?_eq {s t : System} {action : Action} {path : Path} (next : Step s action t)
    (quiet : action.changes path = false) : t.memory.file? path = s.memory.file? path := by
  cases next with
  | @store file waiting =>
    obtain ⟨spelling, _, lookup⟩ := MemoryFiles.file?_store s.memory file path
    rw [lookup, if_neg]
    simpa [Action.changes] using quiet
  | @erase removed file found =>
    rw [MemoryFiles.file?_remove, if_neg]
    simpa [Action.changes] using quiet
  | glance locked => simp
  | fetch locked => simp
  | _ => rfl

/-- What the history tells about the calls for events. -/
structure Traced (history : List Action) (s : System) : Prop where
  begun : ∀ {ticket request}, .call ticket request ∈ history → s.calls ticket ≠ none
  known : ∀ {ticket}, s.calls ticket ≠ none → ∃ request, .call ticket request ∈ history
  changing : ∀ {ticket event path watched}, .call ticket (.event event) ∈ history →
    s.calls ticket = some (.changing path watched) → path = event.path ∧ watched
  deleting : ∀ {ticket event path missing}, .call ticket (.event event) ∈ history →
    s.calls ticket = some (.deleting path missing) → path = event.path
  visiting : ∀ {ticket event watched path stamp?}, .call ticket (.event event) ∈ history →
    s.lock = .visiting (.call ticket watched) path stamp? → path = event.path ∧ watched
  inside : ∀ {ticket watched path stamp?},
    s.lock = .visiting (.call ticket watched) path stamp? → s.calls ticket = some .inside

namespace Traced

variable {history : List Action} {s t : System} {action : Action}

theorem initial (catalogue : Catalogue) : Traced [] (.initial catalogue) := by
  constructor <;> simp [System.initial]

theorem call_mem_of_mem_cons (silent : ∀ ticket request, action ≠ .call ticket request) {ticket : Nat}
    {request : Request} (member : .call ticket request ∈ action :: history) :
    .call ticket request ∈ history := by
  rcases List.mem_cons.mp member with same | member
  · exact absurd same.symm (silent ticket request)
  · exact member

theorem of_calls_eq (traced : Traced history s)
    (silent : ∀ ticket request, action ≠ .call ticket request)
    (calls : t.calls = s.calls) (lock : ∀ {ticket watched path stamp?},
      t.lock = .visiting (.call ticket watched) path stamp? →
        ∃ stamp?, s.lock = .visiting (.call ticket watched) path stamp?) :
    Traced (action :: history) t := by
  constructor
  · rw [calls]
    exact fun member => traced.begun (call_mem_of_mem_cons silent member)
  · rw [calls]
    exact fun present => (traced.known present).imp fun _ => List.mem_cons_of_mem action
  · rw [calls]
    exact fun member => traced.changing (call_mem_of_mem_cons silent member)
  · rw [calls]
    exact fun member => traced.deleting (call_mem_of_mem_cons silent member)
  · intro ticket event watched path stamp? member held
    obtain ⟨_, before⟩ := lock held
    exact traced.visiting (call_mem_of_mem_cons silent member) before
  · intro ticket watched path stamp? held
    obtain ⟨_, before⟩ := lock held
    rw [calls]
    exact traced.inside before

theorem call (traced : Traced history s) {ticket : Nat} (request : Request)
    (new : s.calls ticket = none) :
    Traced (.call ticket request :: history)
      (s.setCall ticket (.ofRequest s.index.catalogue request)) := by
  have earlier : ∀ {other asked}, .call other asked ∈ .call ticket request :: history →
      other = ticket ∧ asked = request ∨ other ≠ ticket ∧ .call other asked ∈ history := by
    intro other asked member
    rcases List.mem_cons.mp member with same | past
    · cases same
      exact .inl ⟨rfl, rfl⟩
    · refine .inr ⟨?_, past⟩
      rintro rfl
      exact traced.begun past new
  constructor
  · intro other asked member
    rcases earlier member with ⟨rfl, rfl⟩ | ⟨differ, member⟩
    · simp
    · rw [System.setCall_of_ne _ _ differ]
      exact traced.begun member
  · intro other present
    by_cases here : other = ticket
    · subst here
      exact ⟨request, List.mem_cons_self⟩
    · rw [System.setCall_of_ne _ _ here] at present
      exact (traced.known present).imp fun _ => List.mem_cons_of_mem _
  · intro other event path watched member state
    rcases earlier member with ⟨rfl, rfl⟩ | ⟨differ, member⟩
    · rw [System.setCall_self] at state
      cases event <;> simp only [Call.ofRequest] at state <;> split at state <;> simp_all [FileEvent.path]
    · rw [System.setCall_of_ne _ _ differ] at state
      exact traced.changing member state
  · intro other event path missing member state
    rcases earlier member with ⟨rfl, rfl⟩ | ⟨differ, member⟩
    · rw [System.setCall_self] at state
      cases event <;> simp only [Call.ofRequest] at state <;> split at state <;> simp_all [FileEvent.path]
    · rw [System.setCall_of_ne _ _ differ] at state
      exact traced.deleting member state
  · intro other event watched path stamp? member held
    rcases earlier member with ⟨rfl, rfl⟩ | ⟨differ, member⟩
    · -- nobody holds the lock for a call that has not begun
      have state := traced.inside held
      rw [new] at state
      cases state
    · exact traced.visiting member held
  · intro other watched path stamp? held
    have state := traced.inside held
    have differ : other ≠ ticket := by
      rintro rfl
      rw [new] at state
      cases state
    rw [System.setCall_of_ne _ _ differ]
    exact state

theorem enter (traced : Traced history s) {ticket : Nat} {path : Path} {watched : Bool}
    (state : s.calls ticket = some (.changing path watched)) (index : Index) :
    Traced (.enter ticket path :: history)
      ({ s with
        index := index
        lock := .visiting (.call ticket watched) path none }.setCall ticket .inside) := by
  constructor
  · intro other request member
    by_cases here : other = ticket
    · subst here
      simp
    · rw [System.setCall_of_ne _ _ here]
      exact traced.begun (call_mem_of_mem_cons (by simp) member)
  · intro other present
    have before : s.calls other ≠ none := by
      by_cases here : other = ticket
      · subst here
        simp [state]
      · rwa [System.setCall_of_ne _ _ here] at present
    exact (traced.known before).imp fun _ => List.mem_cons_of_mem _
  · intro other event place flag member state
    by_cases here : other = ticket
    · subst here
      simp at state
    · rw [System.setCall_of_ne _ _ here] at state
      exact traced.changing (call_mem_of_mem_cons (by simp) member) state
  · intro other event place missing member state
    by_cases here : other = ticket
    · subst here
      simp at state
    · rw [System.setCall_of_ne _ _ here] at state
      exact traced.deleting (call_mem_of_mem_cons (by simp) member) state
  · intro other event flag place stamp? member held
    cases held
    exact traced.changing (call_mem_of_mem_cons (by simp) member) state
  · intro other flag place stamp? held
    cases held
    simp

/-- A call that frees the lock is over, or goes on with the same file. -/
theorem of_calls_update_of_free (traced : Traced history s)
    (silent : ∀ ticket request, action ≠ .call ticket request)
    {ticket : Nat} {call : Call} (free : t.lock = .free) (old : s.calls ticket ≠ none)
    (calls : t.calls = Function.update s.calls ticket (some call))
    (follows : call = .ended ∨ ∃ path missing, call = .deleting path missing ∧
      ∀ {event}, .call ticket (.event event) ∈ history → path = event.path) :
    Traced (action :: history) t := by
  constructor
  · intro other request member
    rw [calls]
    by_cases here : other = ticket
    · subst here
      simp
    · rw [Function.update_of_ne here]
      exact traced.begun (call_mem_of_mem_cons silent member)
  · intro other present
    rw [calls] at present
    have before : s.calls other ≠ none := by
      by_cases here : other = ticket
      · rwa [here]
      · rwa [Function.update_of_ne here] at present
    exact (traced.known before).imp fun _ => List.mem_cons_of_mem action
  · intro other event path watched member state
    rw [calls] at state
    by_cases here : other = ticket
    · subst here
      rcases follows with rfl | ⟨place, missing, rfl, _⟩ <;> simp at state
    · rw [Function.update_of_ne here] at state
      exact traced.changing (call_mem_of_mem_cons silent member) state
  · intro other event path missing member state
    rw [calls] at state
    by_cases here : other = ticket
    · subst here
      rcases follows with rfl | ⟨place, known, rfl, same⟩
      · simp at state
      · rw [Function.update_self] at state
        cases state
        exact same (call_mem_of_mem_cons silent member)
    · rw [Function.update_of_ne here] at state
      exact traced.deleting (call_mem_of_mem_cons silent member) state
  · intro other event watched path stamp? member held
    rw [free] at held
    cases held
  · intro other watched path stamp? held
    rw [free] at held
    cases held

theorem endVisit (traced : Traced history s) (silent : ∀ ticket request, action ≠ .call ticket request)
    {visitor : Visitor} {path : Path} {stamp? : Option Stamp}
    (locked : s.lock = .visiting visitor path stamp?) (result : Index × Except Fault Outcome) :
    Traced (action :: history) (s.endVisit visitor path result) := by
  cases visitor with
  | replay scan queue =>
    refine traced.of_calls_eq silent rfl ?_
    intro ticket watched other stamp? held
    cases queue <;> cases held
  | call ticket watched =>
    refine traced.of_calls_update_of_free silent rfl (by simp [traced.inside locked]) rfl ?_
    cases result.2 with
    | ok outcome => exact .inl rfl
    | error fault =>
      simp only [Call.afterLook]
      split
      · exact .inr ⟨path, true, rfl, fun member => (traced.visiting member locked).1⟩
      · exact .inl rfl

theorem step (traced : Traced history s) (next : Step s action t) : Traced (action :: history) t := by
  cases next with
  | call request new => exact traced.call request new
  | enter free state => exact traced.enter state _
  | delete free state =>
    exact traced.of_calls_update_of_free (by simp) free (by simp [state]) rfl (.inl rfl)
  | @glance visitor path locked =>
    rcases s.glance_cases visitor path with ⟨fault, _, ends⟩ | ⟨m, _, _, ends⟩ | ⟨m, _, _, ends⟩
    · rw [ends]
      exact traced.endVisit (by simp) locked _
    · rw [ends]
      exact traced.endVisit (by simp) locked _
    · rw [ends]
      refine traced.of_calls_eq (by simp) rfl ?_
      intro ticket watched other stamp? held
      cases held
      exact ⟨none, locked⟩
  | fetch locked => exact traced.endVisit (by simp) locked _
  | @publish scan results locked stage =>
    refine traced.of_calls_eq (by simp) rfl ?_
    intro ticket watched other stamp? held
    simp only [System.setScan] at held
    cases queue : s.index.touched <;> rw [queue] at held <;> cases held
  | close | discard | accept =>
    refine traced.of_calls_eq (by simp) rfl ?_
    intro ticket watched other stamp? held
    cases held
  | _ => exact traced.of_calls_eq (by simp) rfl (fun held => ⟨_, held⟩)

end Traced

theorem Run.traced {catalogue : Catalogue} {admits : System → Action → Prop}
    {history : List Action} {s : System} (run : Run catalogue admits history s) :
    Traced history s := by
  induction run with
  | start => exact Traced.initial catalogue
  | step past admitted next ih => exact ih.step next

def Action.isCall : Action → Bool
  | .call _ _ => true
  | _ => false

theorem Run.serial_of_single_call {catalogue : Catalogue} {admits : System → Action → Prop}
    {history : List Action} {s : System} (single : (history.filter Action.isCall).length ≤ 1)
    (events : ∀ ticket request, .call ticket request ∈ history → ∃ event, request = .event event)
    (run : Run catalogue admits history s) : Run catalogue Serial history s := by
  induction run with
  | start => exact .start
  | @step history s t action past admitted next ih =>
    have fewer : (history.filter Action.isCall).length ≤ 1 := by
      refine Nat.le_trans ?_ single
      exact ((List.sublist_cons_self action history).filter _).length_le
    have earlier := ih fewer fun ticket request member =>
      events ticket request (List.mem_cons_of_mem action member)
    refine .step earlier ?_ next
    cases action with
    | call ticket request =>
      refine ⟨events ticket request List.mem_cons_self, ?_⟩
      intro other call state
      -- another call would be the second one
      obtain ⟨asked, member⟩ := past.traced.known (by simp [state] : s.calls other ≠ none)
      have counted : .call other asked ∈ history.filter Action.isCall :=
        List.mem_filter.mpr ⟨member, rfl⟩
      have positive := List.length_pos_of_mem counted
      simp only [List.filter_cons, Action.isCall, if_true, List.length_cons] at single
      omega
    | _ => trivial

theorem Fresh.cases_call_cons {path : Path} {history : List Action} {s : System}
    (traced : Traced history s) {catalogue : Catalogue} (handled : catalogue.handles path)
    {ticket other : Nat} {event : FileEvent} (new : s.calls ticket = none)
    (fresh : Fresh path (.call ticket (.event event) :: history) other) :
    other = ticket ∧ Call.ofRequest catalogue (.event event) ≠ .ended ∨
      other ≠ ticket ∧ Fresh path history other := by
  obtain ⟨about, member, same⟩ := fresh
  rw [since_cons rfl, List.mem_cons] at member
  rcases member with equal | past
  · cases equal
    refine .inl ⟨rfl, ?_⟩
    rw [← Catalogue.handles_congr _ same] at handled
    cases event <;> simp_all [Call.ofRequest, FileEvent.path]
  · refine .inr ⟨?_, about, past, same⟩
    rintro rfl
    exact traced.begun (mem_of_mem_since past) new

/-- What the calls for events about one file have done since it last changed. -/
structure Attended (path : Path) (history : List Action) (s : System) : Prop where
  alone : ∀ {fresh}, Fresh path history fresh → ∀ {ticket call}, s.calls ticket = some call →
    call ≠ .ended → ∃ request, .call ticket request ∈ since path history
  missing : ∀ {ticket request other}, .call ticket request ∈ since path history →
    s.calls ticket = some (.deleting other true) → other.same path → s.memory.file? path = none
  entered : ∀ {ticket watched other stamp?}, Fresh path history ticket →
    s.lock = .visiting (.call ticket watched) other stamp? → Touched path history
  ended : ∀ {ticket}, Fresh path history ticket → s.calls ticket = some .ended → Touched path history

namespace Attended

variable {path : Path} {history : List Action} {s t : System} {action : Action}

theorem initial (catalogue : Catalogue) : Attended path [] (.initial catalogue) := by
  constructor <;> simp [Fresh, since]

theorem of_changes (change : action.changes path) : Attended path (action :: history) t := by
  constructor
  · exact fun fresh => absurd fresh (not_fresh_of_changes change _)
  · simp [since_of_changes change]
  · exact fun fresh => absurd fresh (not_fresh_of_changes change _)
  · exact fun fresh => absurd fresh (not_fresh_of_changes change _)

section Silent

variable (silent : ∀ ticket request, action ≠ .call ticket request)
  (quiet : action.changes path = false)
include silent quiet

theorem call_mem_since_iff {ticket : Nat} {request : Request} :
    .call ticket request ∈ since path (action :: history) ↔
      .call ticket request ∈ since path history := by
  rw [since_cons quiet, List.mem_cons]
  exact or_iff_right (silent ticket request).symm

theorem fresh_cons_iff {ticket : Nat} :
    Fresh path (action :: history) ticket ↔ Fresh path history ticket := by
  simp only [Fresh, call_mem_since_iff silent quiet]

theorem of_calls_eq (attended : Attended path history s) (calls : t.calls = s.calls)
    (file : t.memory.file? path = s.memory.file? path)
    (lock : ∀ {ticket watched other stamp?},
      t.lock = .visiting (.call ticket watched) other stamp? →
        ∃ stamp?, s.lock = .visiting (.call ticket watched) other stamp?) :
    Attended path (action :: history) t := by
  constructor
  · intro ticket fresh
    simp only [call_mem_since_iff silent quiet, calls]
    exact attended.alone ((fresh_cons_iff silent quiet).mp fresh)
  · simp only [call_mem_since_iff silent quiet, calls, file]
    exact attended.missing
  · intro ticket watched other stamp? fresh held
    obtain ⟨_, before⟩ := lock held
    exact (attended.entered ((fresh_cons_iff silent quiet).mp fresh) before).cons quiet
  · intro ticket fresh state
    rw [calls] at state
    exact (attended.ended ((fresh_cons_iff silent quiet).mp fresh) state).cons quiet

theorem of_calls_update (attended : Attended path history s) {ticket : Nat} {call : Call}
    (live : ∃ old, s.calls ticket = some old ∧ old ≠ .ended)
    (calls : t.calls = Function.update s.calls ticket (some call))
    (file : t.memory.file? path = s.memory.file? path)
    (lock : ∀ {other watched place stamp?},
      t.lock = .visiting (.call other watched) place stamp? → other = ticket ∧ call = .inside)
    (missing : ∀ {other}, call = .deleting other true → other.same path →
      s.memory.file? path = none)
    (touched : Fresh path history ticket → call = .inside ∨ call = .ended →
      Touched path (action :: history)) :
    Attended path (action :: history) t := by
  constructor
  · intro fresh begun other state found unfinished
    rw [fresh_cons_iff silent quiet] at begun
    rw [calls] at found
    simp only [call_mem_since_iff silent quiet]
    by_cases here : other = ticket
    · subst here
      obtain ⟨old, before, unfinished⟩ := live
      exact attended.alone begun before unfinished
    · rw [Function.update_of_ne here] at found
      exact attended.alone begun found unfinished
  · intro other request place member found same
    rw [calls] at found
    rw [file]
    by_cases here : other = ticket
    · subst here
      rw [Function.update_self] at found
      exact missing (Option.some.inj found) same
    · rw [Function.update_of_ne here] at found
      exact attended.missing ((call_mem_since_iff silent quiet).mp member) found same
  · intro other watched place stamp? fresh held
    obtain ⟨rfl, inside⟩ := lock held
    exact touched ((fresh_cons_iff silent quiet).mp fresh) (.inl inside)
  · intro other fresh state
    rw [calls] at state
    by_cases here : other = ticket
    · subst here
      rw [Function.update_self] at state
      exact touched ((fresh_cons_iff silent quiet).mp fresh) (.inr (Option.some.inj state))
    · rw [Function.update_of_ne here] at state
      exact (attended.ended ((fresh_cons_iff silent quiet).mp fresh) state).cons quiet

theorem endVisit (attended : Attended path history s) (traced : Traced history s)
    {visitor : Visitor} {place : Path} {stamp? : Option Stamp}
    (locked : s.lock = .visiting visitor place stamp?) (result : Index × Except Fault Outcome)
    (missing : ∀ {fault}, result.2 = .error fault → place.same path → s.memory.file? path = none) :
    Attended path (action :: history) (s.endVisit visitor place result) := by
  cases visitor with
  | replay scan queue =>
    refine attended.of_calls_eq silent quiet rfl (by simp) ?_
    intro ticket watched other stamp? held
    cases queue <;> cases held
  | call ticket watched =>
    refine attended.of_calls_update silent quiet ⟨_, traced.inside locked, by simp⟩ rfl (by simp) ?_ ?_ ?_
    · intro other flag spot stamp? held
      cases held
    · intro other dropped same
      cases outcome : result.2 with
      | ok kept =>
        rw [outcome] at dropped
        cases dropped
      | error fault =>
        rw [outcome] at dropped
        simp only [Call.afterLook] at dropped
        split at dropped
        · cases dropped
          exact missing outcome same
        · cases dropped
    · exact fun fresh _ => (attended.entered fresh locked).cons quiet

end Silent

theorem call (attended : Attended path history s) (traced : Traced history s)
    (handled : s.index.catalogue.handles path) {ticket : Nat} {event : FileEvent}
    (ended : ∀ other call, s.calls other = some call → call = .ended)
    (new : s.calls ticket = none) :
    Attended path (.call ticket (.event event) :: history)
      (s.setCall ticket (.ofRequest s.index.catalogue (.event event))) := by
  have quiet : Action.changes path (.call ticket (.event event)) = false := rfl
  have unlocked : ∀ {watched place stamp?},
      s.lock ≠ .visiting (.call ticket watched) place stamp? := by
    intro watched place stamp? held
    have state := traced.inside held
    rw [new] at state
    cases state
  constructor
  · intro fresh _ other state found unfinished
    by_cases here : other = ticket
    · subst here
      exact ⟨.event event, by simp [since_cons quiet]⟩
    · rw [System.setCall_of_ne _ _ here] at found
      exact absurd (ended other state found) unfinished
  · intro other request place member found same
    by_cases here : other = ticket
    · subst here
      rw [System.setCall_self] at found
      cases event <;> simp only [Call.ofRequest] at found <;> split at found <;> simp at found
    · rw [System.setCall_of_ne _ _ here] at found
      rw [since_cons quiet, List.mem_cons] at member
      have past := member.resolve_left (fun equal => here (by cases equal; rfl))
      exact attended.missing past found same
  · intro other watched place stamp? fresh held
    rcases fresh.cases_call_cons traced handled new with ⟨rfl, _⟩ | ⟨_, earlier⟩
    · exact absurd held unlocked
    · exact (attended.entered earlier held).cons quiet
  · intro other fresh state
    rcases fresh.cases_call_cons traced handled new with ⟨rfl, unfinished⟩ | ⟨differ, earlier⟩
    · rw [System.setCall_self] at state
      exact absurd (Option.some.inj state) unfinished
    · rw [System.setCall_of_ne _ _ differ] at state
      exact (attended.ended earlier state).cons quiet

theorem step (attended : Attended path history s) (traced : Traced history s)
    (handled : s.index.catalogue.handles path) (admitted : Serial s action)
    (next : Step s action t) : Attended path (action :: history) t := by
  by_cases change : action.changes path
  · exact of_changes change
  have quiet : action.changes path = false := by simpa using change
  have file := next.file?_eq quiet
  cases next with
  | call request new =>
    obtain ⟨⟨event, rfl⟩, ended⟩ := admitted
    exact attended.call traced handled ended new
  | @enter ticket place watched free state =>
    refine attended.of_calls_update (by simp) quiet ⟨_, state, by simp⟩ rfl rfl ?_ (by simp) ?_
    · intro other flag spot stamp? held
      cases held
      exact ⟨rfl, rfl⟩
    · rintro ⟨event, member, same⟩ _
      obtain ⟨rfl, _⟩ := traced.changing (mem_of_mem_since member) state
      exact ⟨ticket, event.path, same, .inl (by simp [since_cons quiet])⟩
  | @delete ticket place missing free state =>
    refine attended.of_calls_update (by simp) quiet ⟨_, state, by simp⟩ rfl rfl ?_ (by simp) ?_
    · intro other flag spot stamp? held
      rw [show s.lock = _ from held] at free
      cases free
    · rintro ⟨event, member, same⟩ _
      have about := traced.deleting (mem_of_mem_since member) state
      subst about
      exact ⟨ticket, event.path, same, .inr ⟨missing, by simp [since_cons quiet]⟩⟩
  | @glance visitor place locked =>
    rcases s.glance_cases visitor place with ⟨fault, stat, ends⟩ | ⟨m, _, _, ends⟩ | ⟨m, _, _, ends⟩
    · rw [ends]
      refine attended.endVisit (by simp) quiet traced locked _ ?_
      intro _ _ same
      rw [← MemoryFiles.file?_congr _ same]
      exact ((MemoryFiles.modified_eq_error_iff _ _ _).mp stat).1
    · rw [ends]
      exact attended.endVisit (by simp) quiet traced locked _ (by simp)
    · rw [ends]
      refine attended.of_calls_eq (by simp) quiet rfl rfl ?_
      intro ticket watched other stamp? held
      cases held
      exact ⟨none, locked⟩
  | @fetch visitor place modified locked =>
    refine attended.endVisit (by simp) quiet traced locked _ ?_
    intro fault failed same
    rw [← MemoryFiles.file?_congr _ same]
    cases answer : s.memory.source.read place with
    | error reason => exact ((MemoryFiles.read_eq_error_iff _ _ _).mp answer).1
    | ok content =>
      rw [answer] at failed
      cases failed
  | @publish scan results locked stage =>
    refine attended.of_calls_eq (by simp) quiet rfl rfl ?_
    intro ticket watched other stamp? held
    simp only [System.setScan] at held
    cases queue : s.index.touched <;> rw [queue] at held <;> cases held
  | close | discard | accept =>
    refine attended.of_calls_eq (by simp) quiet rfl rfl ?_
    intro ticket watched other stamp? held
    cases held
  | tick | store | erase => exact attended.of_calls_eq (by simp) quiet rfl file (fun held => ⟨_, held⟩)
  | _ => exact attended.of_calls_eq (by simp) quiet rfl rfl (fun held => ⟨_, held⟩)

end Attended

end RouteAtlas.Interleaving
