import BrailleShare.Proofs.Server.Device

/-!
# What the device shows

The device is given a window only when it has to be: another client was written last, or the client
has changed its content since. That nothing is missed rests on one invariant, that the device was
last given the window of the client that was written last, unless that has changed since.

Main statements: every change keeps the invariant (`InView.of_change`), so that it holds in every
reachable state (`ReachableWith.inView`), and each cycle leaves the display's owner on the device,
with one write if it was not there and none if it was (`owner_on_device`).
-/

namespace BrailleShare.Server

variable {σ : Type} {s t : Server σ} {given g : List Grant} {id : ClientId} {c : Client}
  {h : Holding}

/-! ### Windows given to the device -/

/-- The windows that the device has been given, the oldest first, whether or not the driver took
them. -/
def windows (s : Server σ) : List Octets :=
  s.effects.filterMap Effect.window?

/-- A line in the log gives the device no window. -/
@[simp] theorem windows_note (s : Server σ) (n : Notice) : (s.note n).windows = s.windows := by
  simp [windows, note, emit, Effect.window?]

/-- A packet that is queued gives the device no window. -/
@[simp] theorem windows_send (s : Server σ) (id : ClientId) (p : Packet) :
    (s.send id p).windows = s.windows := by
  simp [windows, send, emit, Effect.window?]

/-- A call to the driver gives the device a window if it is about one. -/
theorem windows_called {α : Type} (s : Server σ) (call : DeviceCall) (a : DriverAnswer σ α) :
    (s.called call a).windows = s.windows ++ (Effect.driver call).window?.toList := by
  have hnotices : (a.notices.map Effect.notice).filterMap Effect.window? = [] := by
    simp [Effect.window?]
  simp only [windows, called, List.filterMap_append, List.filterMap_cons, hnotices]
  cases (Effect.driver call).window? <;> rfl

/-! ### The invariant -/

/-- The device was last given the window of the client that was written last, unless the client has
changed its content since. -/
def InView (s : Server σ) : Prop :=
  ∀ id h, s.lastShown = some id → s.holding? id = some h → h.freshness = .displayed →
    s.windows.getLast? = some (h.window.render s.table)

namespace InView

/-- What gives the device no window keeps the invariant, if a client whose content counts as
displayed had the same window displayed before. -/
theorem keep (hv : s.InView) (hwindows : t.windows = s.windows) (htable : t.table = s.table)
    (hlast : ∀ {id}, t.lastShown = some id → s.lastShown = some id)
    (hheld : ∀ {id h}, t.holding? id = some h → h.freshness = .displayed →
      ∃ h', s.holding? id = some h' ∧ h'.freshness = .displayed ∧ h'.window = h.window) :
    t.InView := by
  intro id h hl hh hf
  obtain ⟨h', hh', hf', hwindow⟩ := hheld hh hf
  rw [hwindows, htable, ← hwindow]
  exact hv id h' (hlast hl) hh' hf'

/-- A client that changes what it holds may keep its window or have it displayed no more. -/
theorem rehold (hv : s.InView) (hc : s.client? c.id = some c) {o : Option Holding}
    (hkeep : ∀ {d}, o = some d → d.freshness = .displayed →
      ∃ h, c.holding = some h ∧ h.freshness = .displayed ∧ h.window = d.window)
    (hwindows : t.windows = s.windows) (htable : t.table = s.table)
    (hlast : ∀ {id}, t.lastShown = some id → s.lastShown = some id)
    (hclients : t.clients = (s.setHolding c.id o).clients) : t.InView := by
  refine hv.keep hwindows htable hlast fun {id d} hd hf => ?_
  rw [holding?, client?_congr hclients, ← holding?, holding?_setHolding hc] at hd
  split at hd
  · rename_i hid
    obtain ⟨h, hh, hfresh, hwindow⟩ := hkeep hd hf
    exact ⟨h, by simp [hid, holding?, hc, hh], hfresh, hwindow⟩
  · exact ⟨d, hd, hf, rfl⟩

/-- Every change keeps the invariant. -/
theorem of_change (hs : s.Consistent) (hv : s.InView) (hch : Change s g t) : t.InView := by
  cases hch with
  | quiet driver console refusalNoted closed more hmore =>
    refine hv.keep ?_ rfl (fun hl => hl) fun hh hf => ⟨_, hh, hf, rfl⟩
    have hnone : more.filterMap Effect.window? = [] := List.filterMap_eq_nil_iff.2 hmore
    simp [windows, hnone]
  | point | spend | takeRaw | returnRaw =>
    exact hv.keep rfl rfl (fun hl => hl) fun hh hf => ⟨_, hh, hf, rfl⟩
  | arrive peer now =>
    refine hv.keep rfl rfl (fun hl => hl) fun {id h} hh hf => ⟨h, ?_, hf, rfl⟩
    rwa [holding?_of_append rfl hs.client?_next rfl] at hh
  | logIn hc =>
    refine hv.keep rfl rfl (fun hl => hl) fun {id h} hh hf => ⟨h, ?_, hf, rfl⟩
    rwa [holding?_logIn hc] at hh
  | settle mode hc =>
    -- a new holding has not been displayed, so nothing is claimed of it
    refine hv.rehold hc ?_ rfl rfl (fun hl => hl) rfl
    intro d hd hf
    obtain rfl := Option.some.inj hd
    cases hf
  | leave hc =>
    refine hv.rehold (o := none) hc (fun hd => by cases hd) rfl rfl (fun hl => ?_) rfl
    simp only at hl
    split at hl
    · cases hl
    · exact hl
  | remask mask hc hh =>
    refine hv.rehold hc (fun hd hf => ⟨_, hh, ?_, ?_⟩) rfl rfl (fun hl => hl) rfl
    · obtain rfl := Option.some.inj hd
      exact hf
    · obtain rfl := Option.some.inj hd
      rfl
  | blank hc | draw payload hc =>
    refine hv.rehold hc ?_ rfl rfl (fun hl => hl) rfl
    intro d hd hf
    obtain rfl := Option.some.inj hd
    cases hf
  | @present c h a hc hh =>
    intro id d hl hd _
    obtain rfl : c.id = id := Option.some.inj hl
    have hd : (s.setHolding c.id (some { h with freshness := .displayed })).holding? c.id =
      some d := hd
    rw [holding?_setHolding hc, if_pos rfl] at hd
    obtain rfl := Option.some.inj hd
    rw [windows_called]
    exact List.getLast?_concat
  | presentHost => exact fun id h hl => by cases hl
  | @depart c hc =>
    refine hv.keep rfl rfl (fun hl => ?_) fun {id h} hh hf => ⟨h, ?_, hf, rfl⟩
    · simp only at hl
      split at hl
      · cases hl
      · exact hl
    · rw [holding?_of_filter rfl] at hh
      split at hh
      · cases hh
      · exact hh

end InView

/-- The invariant holds in every reachable state. -/
theorem ReachableWith.inView [Driver σ] (h : s.ReachableWith given) : s.InView := by
  refine (h.of_changes (P := fun s _ => s.Consistent ∧ s.InView) (fun hs => hs.1) ?_ ?_).2
  · intro settings driver console table
    refine ⟨start_consistent settings driver console table, fun id h hl => ?_⟩
    cases hl
  · exact fun hs hch => ⟨hs.1.of_change hch, hs.2.of_change hs.1 hch⟩

/-! ### A cycle -/

/-- The client that is to be shown holds a tty and has content. -/
theorem hasContent_of_shownClient (h : s.shownClient = some id) :
    ∃ h, s.holding? id = some h ∧ h.freshness ≠ .empty := by
  rw [shownClient, TtyTree.firstAlongFocus_eq rfl] at h
  obtain ⟨_, _, _, _, hfirst, _⟩ := List.findSome?_eq_some_iff.1 h
  obtain ⟨c, hc, hcontent⟩ := client?_of_firstWhere hfirst
  unfold Client.hasContent at hcontent
  split at hcontent
  · rename_i h hh
    exact ⟨h, by simp [holding?, hc, hh], by simpa using hcontent⟩
  · cases hcontent

/-- Looking the console up gives the device no window and does not change whose it has. -/
theorem syncConsole_keeps (s : Server σ) : s.syncConsole.windows = s.windows ∧
    s.syncConsole.lastShown = s.lastShown ∧ s.syncConsole.table = s.table := by
  unfold syncConsole
  split
  · exact ⟨rfl, rfl, rfl⟩
  · exact ⟨windows_note s _, rfl, rfl⟩

/-- Delivering a key leaves the records and gives no window. -/
theorem deliver_keeps (s : Server σ) (e : KeyEvent) :
    (s.deliver e).2.clients = s.clients ∧ (s.deliver e).2.windows = s.windows := by
  unfold deliver
  split
  · exact ⟨rfl, rfl⟩
  · split
    · exact ⟨rfl, rfl⟩
    · split
      · exact ⟨rfl, rfl⟩
      · exact ⟨rfl, by simp⟩

section driver

variable [Driver σ]

/-- Reading an event leaves the records and gives no window. -/
theorem readEvent_keeps (s : Server σ) :
    s.readEvent.2.clients = s.clients ∧ s.readEvent.2.windows = s.windows := by
  unfold readEvent
  split
  · exact ⟨rfl, (windows_called s .readKey _).trans (List.append_nil _)⟩
  · exact ⟨rfl, (windows_called s .readCommand _).trans (List.append_nil _)⟩

/-- Reading an event changes no record and gives the device no window. -/
theorem nextCommand_keeps (s : Server σ) :
    s.nextCommand.2.clients = s.clients ∧ s.nextCommand.2.windows = s.windows := by
  have hread := readEvent_keeps s
  unfold nextCommand
  rcases heq : s.readEvent with ⟨e | (_ | e), t⟩ <;> rw [heq] at hread
  · exact hread
  · exact hread
  · have hdeliver := deliver_keeps t e
    exact ⟨hdeliver.1.trans hread.1, hdeliver.2.trans hread.2⟩

/-- Outside of raw mode a cycle changes records and gives windows only in bringing the display up
to date. -/
theorem cycle_keeps (hr : s.rawHolder = none) :
    s.cycle.2.clients = s.syncConsole.updateDisplay.2.clients ∧
      s.cycle.2.windows = s.syncConsole.updateDisplay.2.windows := by
  have hraw : s.syncConsole.rawHolder = none := by
    unfold syncConsole
    split <;> exact hr
  simp only [cycle, hraw]
  rcases heq : s.syncConsole.updateDisplay with ⟨e | u, t⟩
  · exact ⟨rfl, rfl⟩
  · exact nextCommand_keeps t

/-- Bringing the display up to date gives the device the window of the client that is to be shown if
another was written last or the content has changed since, and nothing otherwise. -/
theorem updateDisplay_of_shownClient (ho : s.shownClient = some id)
    (hh : s.holding? id = some h) :
    s.updateDisplay.2.window? id = some h.window ∧ s.updateDisplay.2.windows = s.windows ++
      if s.lastShown ≠ some id ∨ h.freshness = .pending then [h.window.render s.table] else [] := by
  obtain ⟨c, hc, hch⟩ := holding?_eq_some_iff.1 hh
  obtain rfl := id_of_client? hc
  have hshow : s.updateDisplay = s.showWindow c.id h := by simp [updateDisplay, ho, hh]
  rw [hshow]
  by_cases hw : s.lastShown ≠ some c.id ∨ h.freshness = .pending
  · have hwindow : (s.setHolding c.id (some { h with freshness := .displayed })).window? c.id =
        some h.window := by
      rw [window?, holding?_setHolding hc, if_pos rfl]
      rfl
    rw [showWindow_of_stale hw, if_pos hw]
    dsimp only
    split
    · exact ⟨hwindow, windows_called ..⟩
    · refine ⟨hwindow, (windows_called ..).trans ?_⟩
      exact congrArg (· ++ [h.window.render s.table]) (windows_note s _)
  · rw [if_neg hw]
    simp only [not_or, not_not] at hw
    rw [showWindow_of_shown hw.1 hw.2]
    exact ⟨by simp [window?, hh], (List.append_nil _).symm⟩

/-- After a cycle in which nobody has the device to itself, the device was last given the window of
the client that owns the display. The cycle gave it this window if another client or the host was
written last, or if the content had changed since; otherwise it gave it none. The driver has become
what the calls of the cycle make of it. This holds whatever the driver answers and however often the
host has replaced it. -/
theorem owner_on_device (h : s.Reachable) (hr : s.rawHolder = none)
    (ho : s.displayOwner.1 = some id) :
    ∃ held, s.holding? id = some held ∧ s.cycle.2.window? id = some held.window ∧
      s.cycle.2.windows.getLast? = some (held.window.render s.table) ∧
      s.cycle.2.windows = s.windows ++
        (if s.lastShown ≠ some id ∨ held.freshness = .pending then [held.window.render s.table]
        else []) ∧
      ∃ calls, s.cycle.2.calls = s.calls ++ calls ∧
        s.cycle.2.driver = DeviceCall.replay s.driver calls := by
  obtain ⟨calls, hdealing, -⟩ := cycle_ordinary hr
  obtain ⟨given, h⟩ := h
  have hv := h.inView
  obtain ⟨held, hheld, hfresh⟩ := hasContent_of_shownClient ho
  have hcycle := cycle_keeps hr
  have hupdate := updateDisplay_of_shownClient ho hheld
  obtain ⟨hwindows, hlast, htable⟩ := syncConsole_keeps s
  rw [hwindows, hlast, htable] at hupdate
  have hheld : s.holding? id = some held := by
    rwa [holding?, client?_congr (syncConsole_clients s)] at hheld
  refine ⟨held, hheld, ?_, ?_, hcycle.2.trans hupdate.2, calls, hdealing.calls, hdealing.driver⟩
  · rw [window?, holding?, client?_congr hcycle.1]
    exact hupdate.1
  · rw [hcycle.2, hupdate.2]
    split
    · exact List.getLast?_concat
    · rename_i hw
      simp only [not_or, not_not] at hw
      have hdisplayed : held.freshness = .displayed := by
        cases hf : held.freshness with
        | empty => exact absurd hf hfresh
        | pending => exact absurd hf hw.2
        | displayed => rfl
      rw [List.append_nil]
      exact hv id held hw.1 hheld hdisplayed

/-- In the rehearsal the second client owns the display, and a cycle puts its window there. -/
theorem owner_on_device_rehearsed : rehearsed.Reachable ∧ rehearsed.rawHolder = none ∧
    rehearsed.displayOwner.1 = some ⟨2⟩ ∧
    ∃ held, rehearsed.holding? ⟨2⟩ = some held ∧
      rehearsed.cycle.2.window? ⟨2⟩ = some held.window ∧
      rehearsed.cycle.2.windows.getLast? = some (held.window.render rehearsed.table) ∧
      rehearsed.cycle.2.windows = rehearsed.windows ++
        (if rehearsed.lastShown ≠ some ⟨2⟩ ∨ held.freshness = .pending then
          [held.window.render rehearsed.table]
        else []) ∧
      ∃ calls, rehearsed.cycle.2.calls = rehearsed.calls ++ calls ∧
        rehearsed.cycle.2.driver = DeviceCall.replay rehearsed.driver calls :=
  have hreach : rehearsed.Reachable := ⟨_, rehearsed_reachable⟩
  have howner : rehearsed.displayOwner.1 = some ⟨2⟩ := by decide +kernel
  ⟨hreach, by decide, howner, owner_on_device hreach (by decide) howner⟩

end driver

end BrailleShare.Server
