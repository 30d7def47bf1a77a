import BrailleShare.Driver.Virtual
import BrailleShare.Proofs.Server.Waiting

/-!
# The warning that too many wait

That a connection is refused because too many have yet to log in is worth a line in the log, but not
that the next one is refused as well: a note is kept that the line has been written, until there is
room again. The note is taken away where the count is lowered, by a login and by the end of a
connection, and nowhere else; so what it tells is a matter of the whole history. An *episode* is a
time without room.

Main statements: what one event makes of the note (`Vigilant.noted_step`); after any events the note
is there if and only if there has been no room since some refusal (`noted_moment_iff`); so of the
refusals of an episode the first is reported, and it alone (`warned_once_per_episode`).
-/

namespace BrailleShare.Server

variable {σ : Type} {s t u : Server σ} {e : Event σ} {peer : String} {now : Nat} {id : ClientId}

/-! ### The note -/

/-- As many connections as may have yet to log in. -/
def Full (s : Server σ) : Prop :=
  s.settings.maxWaiting ≤ s.waiting

/-- The note is there only while there is no room. -/
def Vigilant (s : Server σ) : Prop :=
  s.refusalNoted = true → s.Full

/-! ### Arrivals -/

/-- What becomes of an arrival. -/
inductive Received (s : Server σ) : Except AdmissionError ClientId × Server σ → Prop
  | shut (hclosed : s.closed = true) : Received s (.error .shuttingDown, s)
  /-- It is refused, and that is worth a line. -/
  | reported (hfull : s.Full) (hnoted : s.refusalNoted = false) :
      Received s (.error (.tooManyWaiting s.settings.maxWaiting),
        { s.note (.tooManyWaiting s.settings.maxWaiting) with refusalNoted := true })
  /-- It is refused, as others have been before. -/
  | refused (hfull : s.Full) (hnoted : s.refusalNoted = true) :
      Received s (.error (.tooManyWaiting s.settings.maxWaiting), s)
  | admitted {after : Server σ} (peer : String) (hroom : ¬ s.Full)
      (hnoted : after.refusalNoted = s.refusalNoted)
      (heffects : after.effects = s.effects ++ [.notice (.accepted ⟨s.nextId⟩ peer)]) :
      Received s (.ok ⟨s.nextId⟩, after)

/-- An arrival is received in one of these ways. -/
theorem accept_received (s : Server σ) (peer : String) (now : Nat) :
    Received s (s.accept peer now) := by
  unfold accept
  split
  · exact .shut ‹_›
  · split
    · split
      · exact .refused ‹_› ‹_›
      · exact .reported ‹_› (by simpa using ‹¬ s.refusalNoted = true›)
    · exact .admitted peer ‹_› rfl rfl

/-- An event is an arrival that is refused because too many wait. -/
def Refuses (s : Server σ) (e : Event σ) : Prop :=
  ∃ peer now, e = .arrival peer now ∧
    (s.accept peer now).1 = .error (.tooManyWaiting s.settings.maxWaiting)

/-- An arrival is refused for this reason if too many wait. -/
theorem refuses_arrival_iff : s.Refuses (.arrival peer now) ↔
    (s.accept peer now).1 = .error (.tooManyWaiting s.settings.maxWaiting) := by
  constructor
  · rintro ⟨peer', now', heq, h⟩
    obtain ⟨rfl, rfl⟩ := Event.arrival.inj heq
    exact h
  · exact fun h => ⟨peer, now, rfl, h⟩

/-- An arrival is refused only while there is no room. -/
theorem Refuses.full (h : s.Refuses e) : s.Full := by
  obtain ⟨peer, now, -, h⟩ := h
  have hreceived := accept_received s peer now
  generalize s.accept peer now = r at h hreceived
  cases hreceived with
  | shut | admitted => cases h
  | reported hfull | refused hfull => exact hfull

section driver

variable [Driver σ]

/-! ### Easing -/

/-- On the way to the second state connections may have ended or logged in, and the note was taken
away if that left room. There has been no warning. -/
structure Eased (s t : Server σ) : Prop where
  settings : t.settings = s.settings
  waiting_le : t.waiting ≤ s.waiting
  noted_iff : t.refusalNoted = true ↔ s.refusalNoted = true ∧ t.Full
  hushed : Hushed s t

namespace Eased

/-- What eases twice eases. -/
theorem trans (h : Eased s t) (h' : Eased t u) : Eased s u := by
  refine ⟨h'.settings.trans h.settings, Nat.le_trans h'.waiting_le h.waiting_le, ?_,
    h.hushed.trans h'.hushed⟩
  have hfull : u.Full → t.Full := fun hu => by
    rw [Full, h'.settings] at hu
    exact Nat.le_trans hu h'.waiting_le
  rw [h'.noted_iff, h.noted_iff]
  exact ⟨fun hn => ⟨hn.1.1, hn.2⟩, fun hn => ⟨⟨hn.1, hfull hn.2⟩, hn.2⟩⟩

/-- The note is still right after what eases. -/
theorem vigilant (h : Eased s t) : t.Vigilant := fun hn =>
  (h.noted_iff.1 hn).2

end Eased

/-- Where the count is lowered, the note is looked at. -/
theorem eased_releaseWaiting (s : Server σ) : Eased s s.releaseWaiting :=
  ⟨rfl, Nat.sub_le .., by simp [releaseWaiting, Full, and_comm], .of_eq rfl⟩

namespace Vigilant

/-- What concerns neither the count nor the note. -/
theorem eased_of_eq (h : s.Vigilant) (hsettings : t.settings = s.settings)
    (hwaiting : t.waiting = s.waiting) (hnoted : t.refusalNoted = s.refusalNoted)
    (hhushed : Hushed s t) : Eased s t := by
  refine ⟨hsettings, Nat.le_of_eq hwaiting, ?_, hhushed⟩
  rw [hnoted, Full, hsettings, hwaiting]
  exact ⟨fun hn => ⟨hn, h hn⟩, fun hn => hn.1⟩

/-- What concerns nobody who comes or goes. -/
theorem eased_of_aside (h : s.Vigilant) (haside : Aside s t) : Eased s t :=
  h.eased_of_eq (congrArg Roster.settings haside.roster) (congrArg Roster.waiting haside.roster)
    haside.noted haside.hushed

/-- Striking a connection off eases. -/
theorem eased_strikeOff (h : s.Vigilant) (c : Client) : Eased s (s.strikeOff c) := by
  rw [strikeOff_eq]
  cases hl : c.loggedIn with
  | true => exact h.eased_of_eq rfl rfl (by simp) (.of_eq rfl)
  | false => exact ⟨rfl, Nat.sub_le .., by simp [Full, and_comm], .of_eq rfl⟩

/-- The end of a connection eases. -/
theorem eased_disconnect (h : s.Vigilant) (id : ClientId) :
    Eased s (s.disconnect id) := by
  cases hc : s.client? id with
  | none => exact h.eased_of_aside (by rw [disconnect_of_none hc]; exact .refl s)
  | some c =>
    have hstruck := h.eased_strikeOff c
    exact hstruck.trans (hstruck.vigilant.eased_of_aside (disconnect_aside hc))

/-- Connections that end one by one. -/
theorem eased_foldl {f : Server σ → Client → Server σ}
    (hf : ∀ s c, s.Vigilant → Eased s (f s c)) (h : s.Vigilant) (cs : List Client) :
    Eased s (cs.foldl f s) := by
  induction cs generalizing s with
  | nil => exact h.eased_of_aside (.refl s)
  | cons c cs ih =>
    have hfirst := hf s c h
    exact hfirst.trans (ih hfirst.vigilant)

/-- The end of late connections eases. -/
theorem eased_expire (h : s.Vigilant) (now : Nat) : Eased s (s.expire now).2 := by
  refine h.eased_foldl (fun s c hs => ?_) _
  have hnote : Eased s (s.note (.overdue c.id)) := hs.eased_of_aside (.note _ _ (by simp))
  exact hnote.trans (hnote.vigilant.eased_disconnect c.id)

/-- A frame eases. -/
theorem eased_frame (h : s.Vigilant) (id : ClientId) (f : Frame) :
    Eased s (s.onFrame id f).2 := by
  by_cases hlogin : s.roster.flag? id = some false ∧ f = .packet (.login s.settings.key)
  · obtain ⟨hflag, rfl⟩ := hlogin
    rw [flag?_roster] at hflag
    obtain ⟨c, hc, hl⟩ := Option.map_eq_some_iff.1 hflag
    rw [onFrame_login hc hl]
    have hlogin : Eased s (s.modifyClient id fun c => { c with loggedIn := true }) :=
      h.eased_of_eq rfl rfl rfl (.of_eq rfl)
    have hreleased := hlogin.trans (eased_releaseWaiting _)
    exact hreleased.trans (hreleased.vigilant.eased_of_aside
      ((Aside.note _ _ (by simp)).trans (.send ..)))
  · exact h.eased_of_aside (onFrame_aside s id f hlogin)

/-- Unless it is an arrival, an event eases matters. -/
theorem eased_step (h : s.Vigilant) (he : ∀ peer now, e ≠ .arrival peer now) :
    Eased s (s.step e) := by
  cases e with
  | arrival peer now => exact absurd rfl (he peer now)
  | frame id f => exact h.eased_frame id f
  | departure id => exact h.eased_disconnect id
  | clock now =>
    have hexpire := h.eased_expire now
    rw [step, maintain]
    split
    · exact hexpire.trans (hexpire.vigilant.eased_of_aside (.note _ _ (by simp)))
    · exact hexpire
  | expiry now => exact h.eased_expire now
  | closing =>
    have hclosing : Eased s (({ s with closed := true } : Server σ).note
        (.closingAll s.clients.length)) :=
      h.eased_of_eq rfl rfl rfl ((Hushed.of_eq rfl).trans (.note _ _ (by simp)))
    exact hclosing.trans (hclosing.vigilant.eased_foldl (fun _ c hs => hs.eased_disconnect c.id) _)
  | ownerAsked | recipientAsked => exact h.eased_of_aside (.syncConsole s)
  | cycle => exact h.eased_of_aside (cycle_aside s)
  | hostWindow cells => exact h.eased_of_aside (hostWindow_aside s cells)
  | hostStatus cells => exact h.eased_of_aside (hostStatus_aside s cells)
  | hostReset => exact h.eased_of_aside (hostReset_aside s)
  | replacement driver => exact h.eased_of_aside (changeDriver_aside s driver)
  | console | device => exact h.eased_of_aside (.of_eq rfl rfl rfl)

end Vigilant

/-! ### What an event does -/

/-- An event is an arrival at which the warning is written. -/
def Warns (s : Server σ) (e : Event σ) : Prop :=
  ∃ peer now, e = .arrival peer now ∧
    .notice (.tooManyWaiting s.settings.maxWaiting) ∈ s.added e

/-- Where an arrival is warned of, the limit is named that there is, the arrival is refused, and
there is no note. -/
theorem limit_of_mem_added {limit : Nat}
    (hmem : .notice (.tooManyWaiting limit) ∈ s.added (.arrival peer now)) :
    limit = s.settings.maxWaiting ∧ s.Refuses (.arrival peer now) ∧ s.refusalNoted = false := by
  have hreceived := accept_received s peer now
  rw [added, step] at hmem
  rw [refuses_arrival_iff]
  generalize s.accept peer now = r at hreceived hmem
  cases hreceived with
  | shut | refused => simp at hmem
  | reported hfull hnoted => exact ⟨by simpa [note, emit] using hmem, rfl, hnoted⟩
  | admitted peer' hroom hnoted heffects => simp [heffects] at hmem

/-- Of the arrivals the warning is written at those that are refused while there is no note. -/
theorem warns_iff : s.Warns e ↔ s.Refuses e ∧ s.refusalNoted = false := by
  constructor
  · rintro ⟨peer, now, rfl, hmem⟩
    exact (limit_of_mem_added hmem).2
  · rintro ⟨⟨peer, now, rfl, h⟩, hnone⟩
    refine ⟨peer, now, rfl, ?_⟩
    have hreceived := accept_received s peer now
    rw [added, step]
    generalize s.accept peer now = r at h hreceived
    cases hreceived with
    | shut | admitted => cases h
    | reported => simp [note, emit]
    | refused hfull hnoted =>
      rw [hnone] at hnoted
      cases hnoted

namespace Vigilant

/-- Whatever the limit that it names, the warning is written at an arrival, and it names the limit
that there is. -/
theorem warns_of_mem (h : s.Vigilant) (hdiscreet : Driver.Discreet σ) {limit : Nat}
    (hmem : .notice (.tooManyWaiting limit) ∈ s.added e) :
    s.Warns e ∧ limit = s.settings.maxWaiting := by
  by_cases he : ∃ peer now, e = .arrival peer now
  · obtain ⟨peer, now, rfl⟩ := he
    obtain ⟨rfl, -⟩ := limit_of_mem_added hmem
    exact ⟨⟨peer, now, rfl, hmem⟩, rfl⟩
  · obtain ⟨more, heffects, hmore⟩ := (h.eased_step fun peer now heq => he ⟨peer, now, heq⟩).hushed
    rw [added_eq heffects] at hmem
    exact absurd hmem (hmore hdiscreet limit)

/-- After an event the note is there if there is no room and it was there before, or the event is a
refusal. -/
theorem noted_step (h : s.Vigilant) (e : Event σ) : (s.step e).refusalNoted = true ↔
    (s.refusalNoted = true ∨ s.Refuses e) ∧ (s.step e).Full := by
  by_cases he : ∃ peer now, e = .arrival peer now
  · obtain ⟨peer, now, rfl⟩ := he
    have hreceived := accept_received s peer now
    rw [refuses_arrival_iff, step]
    generalize s.accept peer now = r at hreceived
    cases hreceived with
    | shut => simpa using show s.refusalNoted = true → s.Full from h
    | refused hfull hnoted => simp [hfull, hnoted]
    | reported hfull hnoted => simpa [note, emit, Full] using hfull
    | admitted peer' hroom hnoted heffects =>
      have hnone : s.refusalNoted = false := by
        cases hs : s.refusalNoted with
        | false => rfl
        | true => exact absurd (h hs) hroom
      simp [hnoted, hnone]
  · have hnone : ¬ s.Refuses e := by
      rintro ⟨peer, now, heq, -⟩
      exact he ⟨peer, now, heq⟩
    have heased := h.eased_step fun peer now heq => he ⟨peer, now, heq⟩
    rw [heased.noted_iff]
    simp [hnone]

/-- The note is still right after an event. -/
theorem step (h : s.Vigilant) (e : Event σ) : (s.step e).Vigilant := fun hn =>
  ((h.noted_step e).1 hn).2

/-- The note is still right after a history. -/
theorem run (h : s.Vigilant) (events : List (Event σ)) : (s.run events).Vigilant := by
  induction events generalizing s with
  | nil => exact h
  | cons e events ih => exact ih (h.step e)

end Vigilant

/-! ### Moments of a history -/

/-- The state before the event of a number. -/
def moment (first : Server σ) (events : List (Event σ)) (i : Nat) : Server σ :=
  first.run (events.take i)

/-- The event of a number is an arrival that is refused because too many wait. -/
def RefusedAt (first : Server σ) (events : List (Event σ)) (i : Nat) : Prop :=
  ∃ e, events[i]? = some e ∧ (first.moment events i).Refuses e

/-- The event of a number is an arrival at which the warning is written. -/
def WarnedAt (first : Server σ) (events : List (Event σ)) (i : Nat) : Prop :=
  ∃ e, events[i]? = some e ∧ (first.moment events i).Warns e

/-- Before the event of a number there is room for another connection to wait. -/
def RoomAt (first : Server σ) (events : List (Event σ)) (i : Nat) : Prop :=
  (first.moment events i).waiting < first.settings.maxWaiting

variable {first : Server σ} {events : List (Event σ)} {i j : Nat}

/-- The next moment is one event later. -/
theorem moment_succ (h : events[i]? = some e) :
    first.moment events (i + 1) = (first.moment events i).step e := by
  rw [moment, List.take_add_one, h, run_append]
  rfl

/-- There is no room exactly if as many wait as may. -/
theorem not_roomAt_iff : ¬ RoomAt first events i ↔ (first.moment events i).Full := by
  rw [RoomAt, Full, moment, settings_run, Nat.not_lt]

/-- There is no room where an arrival is refused. -/
theorem RefusedAt.not_roomAt (h : RefusedAt first events i) : ¬ RoomAt first events i := by
  obtain ⟨e, -, he⟩ := h
  exact not_roomAt_iff.2 he.full

/-- The warning is written at a refusal that is not noted yet. -/
theorem warnedAt_iff : WarnedAt first events i ↔
    RefusedAt first events i ∧ (first.moment events i).refusalNoted = false := by
  simp only [WarnedAt, RefusedAt, warns_iff, exists_and_right, ← and_assoc]

/-- A refusal stays noted until there is room. -/
theorem noted_moment_succ (h : first.Vigilant) (hi : i < events.length) :
    (first.moment events (i + 1)).refusalNoted = true ↔
      ((first.moment events i).refusalNoted = true ∨ RefusedAt first events i) ∧
        ¬ RoomAt first events (i + 1) := by
  obtain ⟨e, he⟩ : ∃ e, events[i]? = some e := ⟨_, List.getElem?_eq_getElem hi⟩
  have hrefused : RefusedAt first events i ↔ (first.moment events i).Refuses e := by
    simp [RefusedAt, he]
  rw [not_roomAt_iff, moment_succ he, hrefused]
  exact (h.run (events.take i)).noted_step e

/-- The note is there if and only if there has been no room since some refusal. -/
theorem noted_moment_iff (h : first.refusalNoted = false) (hi : i ≤ events.length) :
    (first.moment events i).refusalNoted = true ↔
      ∃ j < i, RefusedAt first events j ∧ ∀ k, j < k → k ≤ i → ¬ RoomAt first events k := by
  have hvigilant : first.Vigilant := fun hn => by simp [h] at hn
  induction i with
  | zero => simp [moment, h]
  | succ i ih =>
    rw [noted_moment_succ hvigilant hi]
    simp only [ih (Nat.le_of_lt hi)]
    constructor
    · rintro ⟨⟨j, hj, hr, hfull⟩ | hr, hnext⟩
      · refine ⟨j, Nat.lt_succ_of_lt hj, hr, fun k hjk hk => ?_⟩
        rcases Nat.lt_or_eq_of_le hk with hk | rfl
        · exact hfull k hjk (Nat.le_of_lt_succ hk)
        · exact hnext
      · refine ⟨i, Nat.lt_succ_self i, hr, fun k hik hk => ?_⟩
        obtain rfl : k = i + 1 := by omega
        exact hnext
    · rintro ⟨j, hj, hr, hfull⟩
      refine ⟨?_, hfull (i + 1) hj (Nat.le_refl _)⟩
      rcases Nat.lt_or_eq_of_le (Nat.le_of_lt_succ hj) with hj | rfl
      · exact .inl ⟨j, hj, hr, fun k hjk hk => hfull k hjk (Nat.le_succ_of_le hk)⟩
      · exact .inr hr

/-! ### Main result -/

/-- When the warning is written in a history. -/
structure WarnedOncePerEpisode (first : Server σ) (events : List (Event σ)) : Prop where
  /-- A refusal is reported if and only if it is the first since there was room: after every refusal
  before it there has been room. -/
  first_only : ∀ i, RefusedAt first events i → (WarnedAt first events i ↔
    ∀ j < i, RefusedAt first events j → ∃ k, j < k ∧ k ≤ i ∧ RoomAt first events k)
  /-- Nothing but a refusal is reported. -/
  refused : ∀ i, WarnedAt first events i → RefusedAt first events i
  /-- At no other event is the warning written, unless the driver writes it by itself, and it names
  the limit. -/
  nowhere_else : Driver.Discreet σ → ∀ i e limit, events[i]? = some e →
    .notice (.tooManyWaiting limit) ∈ (first.moment events i).added e →
      WarnedAt first events i ∧ limit = first.settings.maxWaiting
  /-- Between two warnings there has been room. -/
  apart : ∀ i j, i < j → WarnedAt first events i → WarnedAt first events j →
    ∃ k, i < k ∧ k ≤ j ∧ RoomAt first events k
  /-- For every refusal there is a warning, its own or one since which there has been no room. -/
  reported : ∀ i, RefusedAt first events i → ∃ j ≤ i, WarnedAt first events j ∧
    ∀ k, j ≤ k → k ≤ i → ¬ RoomAt first events k

/-- It is enough that the warning comes at the first refusal of each episode and at no other. -/
theorem WarnedOncePerEpisode.of_first_only (hvigilant : first.Vigilant)
    (h : ∀ i, RefusedAt first events i → (WarnedAt first events i ↔
      ∀ j < i, RefusedAt first events j → ∃ k, j < k ∧ k ≤ i ∧ RoomAt first events k)) :
    WarnedOncePerEpisode first events := by
  have hrefused : ∀ i, WarnedAt first events i → RefusedAt first events i := fun i hw =>
    (warnedAt_iff.1 hw).1
  refine ⟨h, hrefused, fun hdiscreet i e limit he hmem => ?_, fun i j hij hi hj => ?_, fun i => ?_⟩
  · obtain ⟨hwarns, rfl⟩ := (hvigilant.run (events.take i)).warns_of_mem hdiscreet hmem
    exact ⟨⟨e, he, hwarns⟩, congrArg Settings.maxWaiting (settings_run ..)⟩
  · exact (h j (hrefused j hj)).1 hj i hij (hrefused i hi)
  · induction i using Nat.strongRecOn with
    | ind i ih =>
      intro hi
      by_cases hw : WarnedAt first events i
      · refine ⟨i, Nat.le_refl i, hw, fun k hik hki => ?_⟩
        rw [Nat.le_antisymm hki hik]
        exact hi.not_roomAt
      · -- another refusal has come before, without room since, and for that there is a warning
        rw [h i hi] at hw
        simp only [not_forall, not_exists, not_and, exists_prop] at hw
        obtain ⟨j, hji, hj, hfull⟩ := hw
        obtain ⟨w, hwj, hwarned, hsince⟩ := ih j hji hj
        refine ⟨w, Nat.le_trans hwj (Nat.le_of_lt hji), hwarned, fun k hwk hki => ?_⟩
        rcases Nat.lt_or_ge j k with hjk | hkj
        · exact hfull k hjk hki
        · exact hsince k hwk hkj

/-- The virtual display writes nothing but the windows it is shown. -/
theorem discreet_virtualDisplay : Driver.Discreet VirtualDisplay where
  writeWindow d cells := by
    change (d.put cells).Discreet
    unfold VirtualDisplay.put
    split
    · exact .of_quiet rfl
    · exact fun limit => by simp
  writeStatus _ _ := .of_quiet rfl
  readCommand _ := .of_quiet rfl
  readKey _ := .of_quiet rfl
  writePacket _ _ := .of_quiet rfl
  readPacket _ := .of_quiet rfl
  reset _ := .of_quiet rfl

/-- In every history and for every limit, none included, the first refusal of an episode is reported
and no other: between any two warnings there has been room, however many were refused, logged in or
left in between, no episode of refusals goes unreported, and no other event is taken for one. -/
theorem warned_once_per_episode (settings : Settings) (driver : σ) (console : UInt32)
    (table : DotTable) (events : List (Event σ)) :
    WarnedOncePerEpisode ((start settings driver console).withTable table) events := by
  have hstart : ((start settings driver console).withTable table).refusalNoted = false := rfl
  generalize (start settings driver console).withTable table = first at hstart ⊢
  refine .of_first_only (fun hn => by simp [hstart] at hn) fun i hi => ?_
  have hle : i ≤ events.length := by
    obtain ⟨e, he, -⟩ := hi
    exact Nat.le_of_lt (List.getElem?_eq_some_iff.1 he).1
  rw [warnedAt_iff, ← Bool.not_eq_true, noted_moment_iff hstart hle]
  simp [hi]

/-- With room for one, the second and the third are refused, and after the first has gone the fifth
is; two of these three refusals are reported. -/
example : (((start ⟨[], 1, 30, 8⟩ ⟨⟨"ba", "Bare", ⟨2, 1⟩, false, false⟩⟩ 3 : Server BareDriver).run
      [.arrival "a" 0, .arrival "b" 1, .arrival "c" 2, .departure ⟨1⟩, .arrival "d" 3,
        .arrival "e" 4]).effects.count (.notice (.tooManyWaiting 1))) = 2 := by
  decide +kernel

end driver

end BrailleShare.Server
