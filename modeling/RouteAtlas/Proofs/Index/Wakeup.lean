import Mathlib.Algebra.GroupWithZero.Nat
import RouteAtlas.Proofs.Index.Traffic

namespace RouteAtlas

structure Channel where
  room : Nat
  waiting : Nat
  connected : Bool

inductive SendFault where
  | full
  | disconnected

namespace Channel

def empty (room : Nat) : Channel := ⟨room, 0, true⟩

def trySend (channel : Channel) : Except SendFault Channel :=
  if channel.connected then
    if channel.waiting < channel.room then .ok { channel with waiting := channel.waiting + 1 }
    else .error .full
  else .error .disconnected

def tryReceive (channel : Channel) : Option Channel :=
  if 0 < channel.waiting then some { channel with waiting := channel.waiting - 1 } else none

def disconnect (channel : Channel) : Channel := { channel with connected := false }

def offered? (channel : Channel) : Option Channel :=
  match channel.trySend with
  | .ok signalled => some signalled
  | .error .full => some channel
  | .error .disconnected => none

/-- No more signals wait in a channel than there is room for. -/
structure Within (room : Nat) (channel : Channel) : Prop where
  room_eq : channel.room = room
  waiting_le : channel.waiting ≤ room

theorem Within.offered {room : Nat} {channel after : Channel} (within : channel.Within room)
    (kept : channel.offered? = some after) : after.Within room := by
  obtain ⟨sized, fits⟩ := within
  unfold offered? trySend at kept
  by_cases connected : channel.connected
  · by_cases free : channel.waiting < channel.room
    · simp only [connected, free, if_true, Option.some.injEq] at kept
      subst kept
      exact ⟨sized, by rw [← sized]; exact free⟩
    · simp only [connected, free, if_true, if_false, Option.some.injEq] at kept
      subst kept
      exact ⟨sized, fits⟩
  · simp [connected] at kept

theorem Within.received {room : Nat} {channel : Channel} (within : channel.Within room) :
    (channel.tryReceive.getD channel).Within room := by
  unfold tryReceive
  split
  · exact ⟨within.room_eq, Nat.le_trans (Nat.sub_le _ _) within.waiting_le⟩
  · exact within

end Channel

def Subscriber.channel (subscriber : Subscriber) : Channel :=
  ⟨1, subscriber.pending.toNat, subscriber.live⟩

theorem Subscriber.offered?_channel (subscriber : Subscriber) :
    subscriber.channel.offered? =
      if subscriber.live then some { subscriber with pending := true }.channel else none := by
  obtain ⟨number, pending, live⟩ := subscriber
  cases live <;> cases pending <;> rfl

namespace Signals

variable {signals : Signals} {subscriber : Subscriber} {number : Nat}

/-- The channels of all subscribers. Signals act on them as on channels with room for one. -/
def channels (signals : Signals) : List Channel := signals.subscribers.map Subscriber.channel

theorem channels_subscribe (signals : Signals) :
    signals.subscribe.channels = signals.channels ++ [.empty 1] := by
  simp [channels, subscribe, Subscriber.channel, Channel.empty]

theorem channels_notify (signals : Signals) :
    signals.notify.channels = signals.channels.filterMap Channel.offered? := by
  unfold channels notify
  induction signals.subscribers with
  | nil => rfl
  | cons subscriber subscribers ih =>
    simp only [List.map_cons, List.filterMap_cons, Subscriber.offered?_channel]
    cases live : subscriber.live <;> simp [live, ih]

theorem channels_update (signals : Signals) (number : Nat) {change : Subscriber → Subscriber}
    (effect : Channel → Channel) (agree : ∀ other, (change other).channel = effect other.channel) :
    (signals.update number change).channels = signals.subscribers.map fun subscriber =>
      if subscriber.number = number then effect subscriber.channel else subscriber.channel := by
  rw [channels, update, List.map_map]
  apply List.map_congr_left
  intro subscriber _
  rw [Function.comp_apply, ← agree]
  exact apply_ite _ _ _ _

theorem channels_take (signals : Signals) (number : Nat) :
    (signals.take number).channels = signals.subscribers.map fun subscriber =>
      if subscriber.number = number then subscriber.channel.tryReceive.getD subscriber.channel
      else subscriber.channel := by
  apply channels_update signals number fun channel => channel.tryReceive.getD channel
  intro other
  obtain ⟨number, pending, live⟩ := other
  cases pending <;> rfl

theorem channels_leave (signals : Signals) (number : Nat) :
    (signals.leave number).channels = signals.subscribers.map fun subscriber =>
      if subscriber.number = number then subscriber.channel.disconnect else subscriber.channel := by
  apply channels_update signals number Channel.disconnect
  intro other
  rfl

theorem mem_subscribe : subscriber ∈ signals.subscribe.subscribers ↔
    subscriber ∈ signals.subscribers ∨ subscriber = ⟨signals.next, false, true⟩ := by
  simp [subscribe]

theorem mem_notify : subscriber ∈ signals.notify.subscribers ↔
    ∃ other ∈ signals.subscribers, other.live ∧ { other with pending := true } = subscriber := by
  simp [notify, and_assoc]

theorem mem_update {change : Subscriber → Subscriber} :
    subscriber ∈ (signals.update number change).subscribers ↔
      (∃ other ∈ signals.subscribers, other.number = number ∧ change other = subscriber) ∨
        subscriber ∈ signals.subscribers ∧ subscriber.number ≠ number := by
  simp only [update, List.mem_map]
  constructor
  · intro found
    obtain ⟨other, member, shape⟩ := found
    by_cases same : other.number = number
    · rw [if_pos same] at shape
      exact .inl ⟨other, member, same, shape⟩
    · rw [if_neg same] at shape
      subst shape
      exact .inr ⟨member, same⟩
  · intro found
    rcases found with ⟨other, member, same, shape⟩ | ⟨member, differ⟩
    · exact ⟨other, member, by rwa [if_pos same]⟩
    · exact ⟨subscriber, member, if_neg differ⟩

theorem exists_live? (member : subscriber ∈ signals.subscribers) (live : subscriber.live) :
    ∃ other, signals.live? subscriber.number = some other := by
  apply Option.isSome_iff_exists.mp
  rw [live?, List.find?_isSome]
  exact ⟨subscriber, member, by simpa using live⟩

theorem of_live? (found : signals.live? number = some subscriber) :
    subscriber ∈ signals.subscribers ∧ subscriber.number = number ∧ subscriber.live := by
  have suits := List.find?_some found
  simp only [Bool.and_eq_true, beq_iff_eq] at suits
  exact ⟨List.mem_of_find?_eq_some found, suits⟩

def waiting (signals : Signals) (number : Nat) : Nat :=
  ((signals.subscribers.filter (·.number == number)).map (·.channel.waiting)).sum

structure Numbered (signals : Signals) : Prop where
  distinct : (signals.subscribers.map Subscriber.number).Nodup
  bounded : ∀ subscriber ∈ signals.subscribers, subscriber.number < signals.next

theorem Numbered.subscribe (numbered : signals.Numbered) : signals.subscribe.Numbered := by
  constructor
  · rw [Signals.subscribe, List.map_append, List.nodup_append]
    refine ⟨numbered.distinct, by simp, ?_⟩
    intro number member last single
    obtain ⟨subscriber, found, rfl⟩ := List.mem_map.mp member
    have less := numbered.bounded subscriber found
    simp only [List.map_cons, List.map_nil, List.mem_singleton] at single
    omega
  · intro subscriber member
    rcases mem_subscribe.mp member with old | rfl
    · exact Nat.lt_succ_of_lt (numbered.bounded subscriber old)
    · exact Nat.lt_succ_self _

theorem Numbered.notify (numbered : signals.Numbered) : signals.notify.Numbered := by
  constructor
  · rw [Signals.notify, List.map_map]
    exact numbered.distinct.sublist (List.filter_sublist.map _)
  · intro subscriber member
    obtain ⟨other, found, _, rfl⟩ := mem_notify.mp member
    exact numbered.bounded other found

theorem Numbered.update (numbered : signals.Numbered) (number : Nat)
    {change : Subscriber → Subscriber} (keeps : ∀ other, (change other).number = other.number) :
    (signals.update number change).Numbered := by
  have same : (signals.update number change).subscribers.map Subscriber.number =
      signals.subscribers.map Subscriber.number := by
    rw [Signals.update, List.map_map]
    apply List.map_congr_left
    intro other _
    simp only [Function.comp_apply]
    split
    · exact keeps other
    · rfl
  constructor
  · rw [same]
    exact numbered.distinct
  · intro subscriber member
    rcases mem_update.mp member with ⟨other, found, _, rfl⟩ | ⟨found, _⟩
    · rw [keeps]
      exact numbered.bounded other found
    · exact numbered.bounded subscriber found

theorem mem_channels (member : subscriber ∈ signals.subscribers) :
    subscriber.channel ∈ signals.channels :=
  List.mem_map_of_mem member

theorem Numbered.waiting_le_one (numbered : signals.Numbered)
    (within : ∀ channel ∈ signals.channels, channel.Within 1) (number : Nat) :
    signals.waiting number ≤ 1 := by
  have distinct := numbered.distinct
  unfold waiting
  unfold channels at within
  generalize signals.subscribers = subscribers at distinct within
  induction subscribers with
  | nil => exact Nat.zero_le 1
  | cons subscriber subscribers ih =>
    obtain ⟨unique, rest⟩ := List.nodup_cons.mp distinct
    obtain ⟨first, others⟩ := List.forall_mem_cons.mp within
    by_cases here : subscriber.number = number
    · have none : subscribers.filter (·.number == number) = [] := by
        rw [List.filter_eq_nil_iff]
        intro other member same
        apply unique
        rw [here, ← beq_iff_eq.mp same]
        exact List.mem_map_of_mem member
      simpa [here, none] using first.waiting_le
    · simpa [here] using ih rest others

end Signals

namespace Wakeup

structure Consumer where
  /-- What it has read last since it subscribed: how many snapshots were put in place before, and the
  snapshot itself. -/
  seen : Option (Nat × Snapshot)
  /-- It has taken a signal, and has not read the snapshot since. -/
  woken : Bool

/-- An index and those who follow it. Publishing takes two steps: a snapshot is put in place, and then all
subscribers are signalled. The writer lock keeps one publication from another, but anyone may subscribe,
take a signal, read the snapshot or leave between the two steps. -/
structure State where
  snapshot : Snapshot
  version : Nat
  signals : Signals
  sending : Bool
  consumers : Nat → Consumer

namespace State

def initial : State := ⟨.empty, 0, .empty, false, fun _ => ⟨none, false⟩⟩

def setConsumer (s : State) (number : Nat) (consumer : Consumer) : State :=
  { s with consumers := Function.update s.consumers number consumer }

end State

inductive Action where
  | swap (snapshot : Snapshot)
  | send
  | subscribe (number : Nat)
  | receive (number : Nat)
  | miss (number : Nat)
  | read (number : Nat)
  | leave (number : Nat)

inductive Step : State → Action → State → Prop where
  | swap {s : State} (snapshot : Snapshot) (idle : s.sending = false) :
    Step s (.swap snapshot)
      { s with snapshot := snapshot, version := s.version + 1, sending := true }
  | send {s : State} (swapped : s.sending = true) :
    Step s .send { s with signals := s.signals.notify, sending := false }
  | subscribe {s : State} :
    Step s (.subscribe s.signals.next)
      ({ s with signals := s.signals.subscribe }.setConsumer s.signals.next ⟨none, false⟩)
  | receive {s : State} {number : Nat} {subscriber : Subscriber}
    (live : s.signals.live? number = some subscriber)
    (signalled : subscriber.channel.tryReceive ≠ none) :
    Step s (.receive number) ({ s with signals := s.signals.take number }.setConsumer number
      { s.consumers number with woken := true })
  | miss {s : State} {number : Nat} {subscriber : Subscriber}
    (live : s.signals.live? number = some subscriber)
    (nothing : subscriber.channel.tryReceive = none) :
    Step s (.miss number) s
  | read {s : State} (number : Nat) :
    Step s (.read number) (s.setConsumer number ⟨some (s.version, s.snapshot), false⟩)
  | leave {s : State} {number : Nat} {subscriber : Subscriber}
    (live : s.signals.live? number = some subscriber) :
    Step s (.leave number) { s with signals := s.signals.leave number }

inductive Run : List Action → State → Prop where
  | start : Run [] .initial
  | step {history : List Action} {action : Action} {s t : State} (past : Run history s)
    (next : Step s action t) : Run (action :: history) t

/-- A consumer that has read the snapshot since it subscribed knows the current one, or will be told. -/
def State.Follows (s : State) (subscriber : Subscriber) : Prop :=
  (s.consumers subscriber.number).seen ≠ none →
    subscriber.pending = true ∨ s.sending = true ∨ (s.consumers subscriber.number).woken = true ∨
      (s.consumers subscriber.number).seen = some (s.version, s.snapshot)

/-- Signals were sent after a subscription, and none has been taken since. -/
def Announced (history : List Action) (number : Nat) : Prop :=
  ∃ later earlier, history = later ++ .send :: earlier ∧ .subscribe number ∈ earlier ∧
    .receive number ∉ later

theorem Announced.cons {history : List Action} {number : Nat} {action : Action}
    (announced : Announced history number) (other : action ≠ .receive number) :
    Announced (action :: history) number := by
  obtain ⟨later, earlier, rfl, subscribed, untaken⟩ := announced
  refine ⟨action :: later, earlier, rfl, subscribed, ?_⟩
  intro member
  rcases List.mem_cons.mp member with same | member
  · exact other same.symm
  · exact untaken member

structure State.Sound (history : List Action) (s : State) : Prop where
  numbered : s.signals.Numbered
  within : ∀ channel ∈ s.signals.channels, channel.Within 1
  subscribed : ∀ subscriber ∈ s.signals.subscribers, .subscribe subscriber.number ∈ history
  kept : ∀ number, .subscribe number ∈ history → .leave number ∉ history →
    ∃ subscriber ∈ s.signals.subscribers, subscriber.number = number ∧ subscriber.live
  follows : ∀ subscriber ∈ s.signals.subscribers, subscriber.live → s.Follows subscriber
  announced : ∀ subscriber ∈ s.signals.subscribers, subscriber.pending →
    Announced history subscriber.number

variable {history : List Action} {action : Action} {s t : State}

theorem State.Follows.setConsumer_of_ne {subscriber : Subscriber} (follows : s.Follows subscriber)
    {number : Nat} (differ : subscriber.number ≠ number) (consumer : Consumer) :
    (s.setConsumer number consumer).Follows subscriber := by
  have same : (s.setConsumer number consumer).consumers subscriber.number =
      s.consumers subscriber.number := Function.update_of_ne differ _ _
  unfold State.Follows
  rw [same]
  exact follows

theorem State.Sound.numbered_step (sound : s.Sound history) (next : Step s action t) :
    t.signals.Numbered := by
  cases next with
  | swap | miss | read => exact sound.numbered
  | send => exact sound.numbered.notify
  | subscribe => exact sound.numbered.subscribe
  | receive | leave => exact sound.numbered.update _ fun _ => rfl

theorem State.Sound.within_step (sound : s.Sound history) (next : Step s action t) :
    ∀ channel ∈ t.signals.channels, channel.Within 1 := by
  intro channel member
  cases next with
  | swap | miss | read => exact sound.within channel member
  | send =>
    rw [Signals.channels_notify] at member
    obtain ⟨before, found, kept⟩ := List.mem_filterMap.mp member
    exact (sound.within before found).offered kept
  | subscribe =>
    rw [State.setConsumer, Signals.channels_subscribe] at member
    rcases List.mem_append.mp member with old | new
    · exact sound.within channel old
    · rw [List.mem_singleton.mp new]
      exact ⟨rfl, Nat.zero_le 1⟩
  | receive =>
    rw [State.setConsumer, Signals.channels_take] at member
    obtain ⟨subscriber, found, rfl⟩ := List.mem_map.mp member
    have before := sound.within _ (Signals.mem_channels found)
    split
    · exact before.received
    · exact before
  | leave =>
    rw [Signals.channels_leave] at member
    obtain ⟨subscriber, found, rfl⟩ := List.mem_map.mp member
    have before := sound.within _ (Signals.mem_channels found)
    split
    · exact ⟨before.room_eq, before.waiting_le⟩
    · exact before

theorem State.Sound.subscribed_step (sound : s.Sound history) (next : Step s action t) :
    ∀ subscriber ∈ t.signals.subscribers, .subscribe subscriber.number ∈ action :: history := by
  intro subscriber member
  cases next with
  | swap | miss | read => exact List.mem_cons_of_mem _ (sound.subscribed subscriber member)
  | send =>
    obtain ⟨other, found, _, rfl⟩ := Signals.mem_notify.mp member
    exact List.mem_cons_of_mem _ (sound.subscribed other found)
  | subscribe =>
    rcases Signals.mem_subscribe.mp member with old | rfl
    · exact List.mem_cons_of_mem _ (sound.subscribed subscriber old)
    · exact List.mem_cons_self
  | receive | leave =>
    rcases Signals.mem_update.mp member with ⟨other, found, _, rfl⟩ | ⟨found, _⟩
    · exact List.mem_cons_of_mem _ (sound.subscribed other found)
    · exact List.mem_cons_of_mem _ (sound.subscribed subscriber found)

theorem State.Sound.kept_step (sound : s.Sound history) (next : Step s action t) :
    ∀ number, .subscribe number ∈ action :: history → .leave number ∉ action :: history →
      ∃ subscriber ∈ t.signals.subscribers, subscriber.number = number ∧ subscriber.live := by
  intro number subscribed stays
  have stayed : .leave number ∉ history := fun left => stays (List.mem_cons_of_mem action left)
  rcases List.mem_cons.mp subscribed with now | before
  · subst now
    cases next
    exact ⟨_, Signals.mem_subscribe.mpr (.inr rfl), rfl, rfl⟩
  obtain ⟨subscriber, member, rfl, live⟩ := sound.kept number before stayed
  cases next with
  | swap | miss | read => exact ⟨subscriber, member, rfl, live⟩
  | send => exact ⟨_, Signals.mem_notify.mpr ⟨subscriber, member, live, rfl⟩, rfl, live⟩
  | subscribe => exact ⟨subscriber, Signals.mem_subscribe.mpr (.inl member), rfl, live⟩
  | @receive taker =>
    by_cases here : subscriber.number = taker
    · exact ⟨_, Signals.mem_update.mpr (.inl ⟨subscriber, member, here, rfl⟩), rfl, live⟩
    · exact ⟨subscriber, Signals.mem_update.mpr (.inr ⟨member, here⟩), rfl, live⟩
  | @leave leaver =>
    have differ : subscriber.number ≠ leaver := by
      intro same
      rw [same] at stays
      exact stays List.mem_cons_self
    exact ⟨subscriber, Signals.mem_update.mpr (.inr ⟨member, differ⟩), rfl, live⟩

theorem State.Sound.follows_step (sound : s.Sound history) (next : Step s action t) :
    ∀ subscriber ∈ t.signals.subscribers, subscriber.live → t.Follows subscriber := by
  intro subscriber member live
  cases next with
  -- from here on the last reading may be outdated, until the signals are sent
  | swap => exact fun _ => .inr (.inl rfl)
  | miss => exact sound.follows subscriber member live
  | send =>
    -- also where the channel was full, a signal waits
    obtain ⟨other, _, _, rfl⟩ := Signals.mem_notify.mp member
    exact fun _ => .inl rfl
  | subscribe =>
    rcases Signals.mem_subscribe.mp member with old | rfl
    · have less := sound.numbered.bounded subscriber old
      have before : State.Follows { s with signals := s.signals.subscribe } subscriber :=
        sound.follows subscriber old live
      exact before.setConsumer_of_ne (by omega) _
    · intro seen
      simp [State.setConsumer] at seen
  | @receive number =>
    rcases Signals.mem_update.mp member with ⟨other, _, rfl, rfl⟩ | ⟨found, differ⟩
    · intro _
      simp [State.setConsumer]
    · have before : State.Follows { s with signals := s.signals.take number } subscriber :=
        sound.follows subscriber found live
      exact before.setConsumer_of_ne differ _
  | read number =>
    by_cases here : subscriber.number = number
    · intro _
      simp [State.setConsumer, here]
    · exact (sound.follows subscriber member live).setConsumer_of_ne here _
  | leave =>
    rcases Signals.mem_update.mp member with ⟨other, _, _, rfl⟩ | ⟨found, _⟩
    · cases live
    · exact sound.follows subscriber found live

theorem State.Sound.announced_step (sound : s.Sound history) (next : Step s action t) :
    ∀ subscriber ∈ t.signals.subscribers, subscriber.pending →
      Announced (action :: history) subscriber.number := by
  intro subscriber member pending
  cases next with
  | swap | miss | read => exact (sound.announced subscriber member pending).cons (by simp)
  | send =>
    obtain ⟨other, found, _, rfl⟩ := Signals.mem_notify.mp member
    exact ⟨[], history, rfl, sound.subscribed other found, List.not_mem_nil⟩
  | subscribe =>
    rcases Signals.mem_subscribe.mp member with old | rfl
    · exact (sound.announced subscriber old pending).cons (by simp)
    · cases pending
  | receive =>
    rcases Signals.mem_update.mp member with ⟨other, _, _, rfl⟩ | ⟨found, differ⟩
    · cases pending
    · apply (sound.announced subscriber found pending).cons
      intro same
      exact differ (Action.receive.inj same).symm
  | leave =>
    rcases Signals.mem_update.mp member with ⟨other, found, _, rfl⟩ | ⟨found, _⟩
    · exact (sound.announced other found pending).cons (by simp)
    · exact (sound.announced subscriber found pending).cons (by simp)

theorem Run.sound (run : Run history s) : s.Sound history := by
  induction run with
  | start => exact ⟨⟨.nil, nofun⟩, nofun, nofun, nofun, nofun, nofun⟩
  | step past next ih =>
    exact ⟨ih.numbered_step next, ih.within_step next, ih.subscribed_step next,
      ih.kept_step next, ih.follows_step next, ih.announced_step next⟩

/-- No change goes unnoticed. A subscriber has one signal waiting at most, and is not forgotten before it
leaves. Once it has read the snapshot, it has a signal waiting, or will be sent one, or is about to read,
or has read the current snapshot last. And a signal waits only if one was sent after the last was taken. -/
theorem every_change_noticed (run : Run history s) :
    (∀ number, s.signals.waiting number ≤ 1) ∧
    ∀ number, .subscribe number ∈ history → .leave number ∉ history →
      ∃ subscriber, s.signals.live? number = some subscriber ∧
        ((s.consumers number).seen ≠ none →
          subscriber.pending = true ∨ s.sending = true ∨ (s.consumers number).woken = true ∨
            (s.consumers number).seen = some (s.version, s.snapshot)) ∧
        (subscriber.pending = true → ∃ later earlier, history = later ++ .send :: earlier ∧
          .subscribe number ∈ earlier ∧ .receive number ∉ later) := by
  have sound := run.sound
  refine ⟨sound.numbered.waiting_le_one sound.within, ?_⟩
  intro number subscribed stayed
  -- whichever live subscriber is found under the number, the invariant speaks of it
  obtain ⟨other, listed, rfl, present⟩ := sound.kept number subscribed stayed
  obtain ⟨subscriber, found⟩ := Signals.exists_live? listed present
  obtain ⟨member, same, live⟩ := Signals.of_live? found
  rw [← same]
  rw [← same] at found
  exact ⟨subscriber, found, sound.follows subscriber member live,
    sound.announced subscriber member⟩

def firstShown : Snapshot := ⟨[⟨⟨"a.py"⟩, 1, []⟩]⟩

def nextShown : Snapshot := ⟨[⟨⟨"a.py"⟩, 2, []⟩]⟩

def coalesced : List Action :=
  [.send, .swap nextShown, .send, .swap firstShown, .read 0, .subscribe 0]

theorem every_change_noticed_of_coalesced :
    (∃ s, Run coalesced s ∧ s.signals.waiting 0 = 1 ∧
      ∃ later earlier, coalesced = later ++ .send :: earlier ∧ .subscribe 0 ∈ earlier ∧
        .receive 0 ∉ later) ∧
    ∃ s, Run (.read 0 :: .receive 0 :: coalesced) s ∧ s.signals.waiting 0 = 0 ∧
      (s.consumers 0).seen = some (s.version, s.snapshot) := by
  have begun : Run [.read 0, .subscribe 0] _ := .step (.step .start .subscribe) (.read 0)
  have first := Run.step (.step begun (.swap firstShown rfl)) (.send rfl)
  have second : Run coalesced _ := .step (.step first (.swap nextShown rfl)) (.send rfl)
  have taken : Run (.read 0 :: .receive 0 :: coalesced) _ :=
    .step (.step second (.receive rfl nofun)) (.read 0)
  obtain ⟨subscriber, found, _, announced⟩ :=
    (every_change_noticed second).2 0 (by simp [coalesced]) (by simp [coalesced])
  obtain ⟨follower, also, noticed, _⟩ :=
    (every_change_noticed taken).2 0 (by simp [coalesced]) (by simp [coalesced])
  cases found
  cases also
  refine ⟨⟨_, second, rfl, announced rfl⟩, ⟨_, taken, rfl, ?_⟩⟩
  rcases noticed nofun with pending | sending | woken | current
  · cases pending
  · cases sending
  · cases woken
  · exact current

section Publications

structure State.Shows (s : State) (index : Index) : Prop where
  sent : s.sending = false
  snapshot : s.snapshot = index.snapshot
  version : s.version = index.version
  signals : s.signals = index.signals

theorem State.Shows.touch {index : Index} (shows : s.Shows index) (path : Path) :
    s.Shows (index.touch path) := by
  unfold Index.touch
  split
  · exact shows
  · exact ⟨shows.sent, shows.snapshot, shows.version, shows.signals⟩

theorem Run.publish {index : Index} (run : Run history s) (shows : s.Shows index)
    (snapshot : Snapshot) :
    ∃ t, Run (.send :: .swap snapshot :: history) t ∧ t.Shows (index.publish snapshot) ∧
      t.consumers = s.consumers := by
  have swapped := run.step (.swap snapshot shows.sent)
  have sent := swapped.step (.send rfl)
  exact ⟨_, sent, ⟨rfl, rfl, congrArg (· + 1) shows.version, congrArg Signals.notify shows.signals⟩,
    rfl⟩

theorem Run.edit {index after : Index} {path : Path} (run : Run history s) (shows : s.Shows index)
    (edits : Index.Edits index path after) :
    ∃ more t, Run (more ++ history) t ∧ t.Shows after ∧ t.consumers = s.consumers := by
  cases edits with
  | same => exact ⟨[], s, run, shows, rfl⟩
  | dropped | made =>
    obtain ⟨t, published, shown, same⟩ := run.publish shows _
    exact ⟨[_, _], t, published, shown, same⟩

/-- Whatever a call or a scan does to an index, its followers see it as publications of this kind. -/
theorem Run.follow {trusted : Source → Prop} {before after : Traffic.State}
    (run : Run history s) (shows : s.Shows before.index)
    (next : Traffic.Step trusted before after) :
    ∃ more t, Run (more ++ history) t ∧ t.Shows after.index ∧ t.consumers = s.consumers := by
  cases next with
  | publish locked stage =>
    obtain ⟨t, published, shown, same⟩ := run.publish shows _
    exact ⟨[_, _], t, published, ⟨shown.sent, shown.snapshot, shown.version, shown.signals⟩, same⟩
  | replay trust locked => exact run.edit shows (Index.edits_replay _ _ _)
  | changed trust free => exact run.edit (shows.touch _) (Index.edits_changed _ _ _)
  | deleted free => exact run.edit (shows.touch _) (Index.edits_deleted _ _)
  | _ => exact ⟨[], s, run, ⟨shows.sent, shows.snapshot, shows.version, shows.signals⟩, rfl⟩

end Publications

end Wakeup

end RouteAtlas
