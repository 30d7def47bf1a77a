import BrailleShare.Proofs.Server.Change
import BrailleShare.Proofs.Tty.Seats

/-!
# Consistent states

A server keeps four pieces of state that have to fit together: the records of its connections, the
clients in the tree, the client that has the device to itself and the client that was shown last.

Main statements: a server starts consistent (`start_consistent`), and every change keeps it so
(`Consistent.of_change`).
-/

namespace BrailleShare.Server

variable {σ : Type} {s t : Server σ} {id x : ClientId} {c : Client} {h : Holding}

/-! ### Looking clients up -/

/-- The same records tell the same of every client. -/
theorem client?_congr (hc : t.clients = s.clients) (x : ClientId) : t.client? x = s.client? x := by
  rw [client?, hc, client?]

/-- A client that is let in can be looked up from then on. -/
theorem client?_of_append (hc : t.clients = s.clients ++ [c]) (hnew : s.client? c.id = none)
    (x : ClientId) : t.client? x = if x = c.id then some c else s.client? x := by
  rw [client?] at hnew
  simp only [client?, hc, List.find?_append]
  by_cases hx : x = c.id
  · simp [hx, hnew]
  · have hne : ¬ c.id = x := fun he => hx he.symm
    simp [hx, hne]

/-- A client that is struck off is not found any more. -/
theorem client?_of_filter (hc : t.clients = s.clients.filter fun d => d.id != id) (x : ClientId) :
    t.client? x = if x = id then none else s.client? x := by
  simp only [client?, hc, List.find?_filter]
  split
  · subst x
    refine List.find?_eq_none.2 fun d _ => ?_
    simp
  · congr 1
    funext d
    by_cases hd : d.id = x <;> simp [*]

/-- Changing what is known of a client concerns this client alone. -/
theorem client?_of_map {f : Client → Client} (hf : ∀ c, (f c).id = c.id)
    (hc : t.clients = s.clients.map fun c => if c.id = id then f c else c) (x : ClientId) :
    t.client? x = if x = id then (s.client? x).map f else s.client? x := by
  have hid : ∀ d : Client, (if d.id = id then f d else d).id = d.id := by
    intro d
    split
    · exact hf d
    · rfl
  have hfind : t.client? x = (s.client? x).map fun c => if c.id = id then f c else c := by
    simp only [client?, hc, List.find?_map]
    congr 2
    funext d
    simp [hid]
  rw [hfind]
  cases hx : s.client? x with
  | none => simp
  | some d =>
    have hd := id_of_client? hx
    by_cases he : x = id <;> simp [hd, he]

/-- Where a client sits, by the record of it. -/
def place (s : Server σ) (id : ClientId) : Option TtyId :=
  (s.client? id).map Client.seat

/-- A client's place is its seat. -/
theorem place_of_client? (hc : s.client? id = some c) : s.place id = some c.seat := by
  simp [place, hc]

/-- Changing what is known of a client changes what this client alone holds. -/
theorem holding?_of_map {f : Client → Client} (hf : ∀ d, (f d).id = d.id)
    (hc : s.client? c.id = some c)
    (hclients : t.clients = s.clients.map fun d => if d.id = c.id then f d else d) (x : ClientId) :
    t.holding? x = if x = c.id then (f c).holding else s.holding? x := by
  simp only [holding?, client?_of_map hf hclients]
  by_cases hx : x = c.id <;> simp [hx, hc]

/-- What one client holds may change for this one alone. -/
theorem holding?_setHolding (hc : s.client? c.id = some c) (h : Option Holding) (x : ClientId) :
    (s.setHolding c.id h).holding? x = if x = c.id then h else s.holding? x :=
  holding?_of_map (f := fun d => { d with holding := h }) (fun _ => rfl) hc rfl x

/-- A client that has shown the key holds what it held. -/
theorem holding?_logIn (hc : s.client? c.id = some c) (x : ClientId) :
    (s.modifyClient c.id fun c => { c with loggedIn := true }).releaseWaiting.holding? x =
      s.holding? x := by
  rw [holding?_of_map (s := s) (f := fun d => { d with loggedIn := true }) (fun _ => rfl) hc rfl]
  split
  · rename_i hx
    rw [hx, holding?, hc]
    rfl
  · rfl

/-- A client that is let in holds nothing. -/
theorem holding?_of_append (hc : t.clients = s.clients ++ [c]) (hnew : s.client? c.id = none)
    (hh : c.holding = none) (x : ClientId) : t.holding? x = s.holding? x := by
  rw [holding?, client?_of_append hc hnew, holding?]
  split
  · rename_i hx
    rw [hx, hnew]
    exact hh
  · rfl

/-- What a client holds goes with it. -/
theorem holding?_of_filter (hc : t.clients = s.clients.filter fun d => d.id != id) (x : ClientId) :
    t.holding? x = if x = id then none else s.holding? x := by
  rw [holding?, client?_of_filter hc, holding?]
  split <;> rfl

/-- Changing what is known of a client changes the place of this client alone. -/
theorem place_of_map {f : Client → Client} (hf : ∀ d, (f d).id = d.id)
    (hc : s.client? c.id = some c)
    (hclients : t.clients = s.clients.map fun d => if d.id = c.id then f d else d) :
    t.place = Function.update s.place c.id (some (f c).seat) := by
  funext x
  simp only [place, client?_of_map hf hclients, Function.update_apply]
  by_cases hx : x = c.id <;> simp [hx, hc]

/-! ### Consistent states -/

/-- The records, the tree, the raw mode and the last writer fit together. -/
structure Consistent (s : Server σ) : Prop where
  tree : s.tree.Sound
  limit : s.tree.limit = s.settings.maxTtys
  /-- Connections are numbered in the order in which they came. -/
  ids : s.clients.Pairwise fun c d => c.id.val < d.id.val
  next : ∀ c ∈ s.clients, c.id.val < s.nextId
  seats : s.tree.Seats s.place
  /-- Only a client that has logged in holds a tty, and the lobby is held by nobody. -/
  held : ∀ {id c h}, s.client? id = some c → c.holding = some h →
    h.tty ≠ TtyTree.lobby ∧ c.loggedIn = true
  raw : ∀ {id}, s.rawHolder = some id → s.isLoggedIn id
  shown : ∀ {id}, s.lastShown = some id → (s.holding? id).isSome

/-- Nothing but the log and what was queued is in the name of a connection. -/
structure Absent (s : Server σ) (id : ClientId) : Prop where
  /-- It sits in no tty, and not in the lobby either. -/
  seat : ∀ tty, id ∉ s.tree.clientsOf tty
  device : s.rawHolder ≠ some id
  display : s.lastShown ≠ some id

namespace Consistent

/-- A client in the list is the one that is found by its id. -/
theorem client?_of_mem (hs : s.Consistent) (hc : c ∈ s.clients) : s.client? c.id = some c := by
  obtain ⟨d, hd⟩ : ∃ d, s.client? c.id = some d :=
    Option.isSome_iff_exists.1 (List.find?_isSome.2 ⟨c, hc, by simp⟩)
  have hdiff : s.clients.Pairwise fun c d => c.id ≠ d.id :=
    hs.ids.imp fun hlt he => Nat.ne_of_lt hlt (congrArg ClientId.val he)
  have : Std.Symm fun c d : Client => c.id ≠ d.id := ⟨fun _ _ h => h.symm⟩
  by_cases hcd : d = c
  · rw [hd, hcd]
  · exact absurd (id_of_client? hd) (hdiff.forall (List.mem_of_find?_eq_some hd) hc hcd)

/-- The next id is nobody's. -/
theorem client?_next (hs : s.Consistent) : s.client? ⟨s.nextId⟩ = none := by
  refine List.find?_eq_none.2 fun c hc => ?_
  have hlt := hs.next c hc
  simp only [beq_iff_eq]
  rintro he
  exact Nat.lt_irrefl _ (he ▸ hlt)

/-- The next id has no place. -/
theorem place_next (hs : s.Consistent) : s.place ⟨s.nextId⟩ = none := by
  simp [place, hs.client?_next]

/-- Who is not known has no seat, no device and no display. -/
theorem absent {id : ClientId} (hs : s.Consistent) (h : s.client? id = none) : s.Absent id := by
  constructor
  · intro tty hmem
    have hplace := hs.seats.mem_iff.1 hmem
    simp [place, h] at hplace
  · intro hraw
    simpa [isLoggedIn, h] using hs.raw hraw
  · intro hshown
    simpa [holding?, h] using hs.shown hshown

/-- What changes no record keeps a state consistent, if the tree keeps its clients and the two
clients that stand out are as they should be. -/
theorem keep (hs : s.Consistent) (htree : t.tree.Sound)
    (hlimit : t.tree.limit = t.settings.maxTtys)
    (hclientsOf : ∀ x, t.tree.clientsOf x = s.tree.clientsOf x) (hclients : t.clients = s.clients)
    (hnext : t.nextId = s.nextId) (hraw : ∀ {id}, t.rawHolder = some id → s.isLoggedIn id)
    (hshown : ∀ {id}, t.lastShown = some id → (s.holding? id).isSome) : t.Consistent := by
  have hclient := client?_congr hclients
  have hplace : t.place = s.place := by funext x; simp only [place, hclient]
  constructor
  case tree => exact htree
  case limit => exact hlimit
  case ids => rw [hclients]; exact hs.ids
  case next => rw [hclients, hnext]; exact hs.next
  case seats => rw [hplace]; exact hs.seats.of_clients hclientsOf
  case held => intro id c h; rw [hclient]; exact hs.held
  case raw =>
    intro id hr
    have := hraw hr
    simpa only [isLoggedIn, hclient] using this
  case shown =>
    intro id hl
    have := hshown hl
    simpa only [holding?, hclient] using this

/-- What changes the record of one client keeps a state consistent, if the tree seats this client
where the new record says. -/
theorem amend (hs : s.Consistent) {f : Client → Client} (hf : ∀ d, (f d).id = d.id)
    (hc : s.client? c.id = some c) (htree : t.tree.Sound)
    (hlimit : t.tree.limit = t.settings.maxTtys)
    (hseats : t.tree.Seats (Function.update s.place c.id (some (f c).seat)))
    (hlogin : c.loggedIn = true → (f c).loggedIn = true)
    (hheld : ∀ {h}, (f c).holding = some h → h.tty ≠ TtyTree.lobby ∧ (f c).loggedIn = true)
    (hclients : t.clients = s.clients.map fun d => if d.id = c.id then f d else d)
    (hnext : t.nextId = s.nextId) (hraw : t.rawHolder = s.rawHolder)
    (hshown : ∀ {id}, t.lastShown = some id → (t.holding? id).isSome) : t.Consistent := by
  have hclient := client?_of_map hf hclients
  have hid : ∀ d : Client, (if d.id = c.id then f d else d).id = d.id := by
    intro d
    split
    · exact hf d
    · rfl
  constructor
  case tree => exact htree
  case limit => exact hlimit
  case ids =>
    rw [hclients]
    refine List.pairwise_map.2 (hs.ids.imp fun {a b} hlt => ?_)
    rw [hid, hid]
    exact hlt
  case next =>
    rw [hclients, hnext]
    intro e he
    obtain ⟨d, hd, rfl⟩ := List.mem_map.1 he
    rw [hid]
    exact hs.next d hd
  case seats =>
    rw [place_of_map hf hc hclients]
    exact hseats
  case held =>
    intro x d h hd hh
    rw [hclient] at hd
    split at hd
    · rename_i hx
      subst x
      simp only [hc, Option.map_some, Option.some.injEq] at hd
      subst d
      exact hheld hh
    · exact hs.held hd hh
  case raw =>
    intro x hr
    have := hs.raw (hraw ▸ hr)
    simp only [isLoggedIn, hclient] at this ⊢
    by_cases hx : x = c.id
    · simp only [hx, hc] at this ⊢
      exact hlogin this
    · simpa [hx] using this
  case shown => exact hshown

/-- A client that keeps its tty may change what else it holds. -/
theorem rehold (hs : s.Consistent) (hc : s.client? c.id = some c) (hh : c.holding = some h)
    {d : Holding} (htty : d.tty = h.tty) : (s.setHolding c.id (some d)).Consistent := by
  have hseats : s.tree.Seats (Function.update s.place c.id (some d.tty)) := by
    rw [htty, ← Client.seat_of_holding hh, ← place_of_client? hc, Function.update_eq_self]
    exact hs.seats
  refine hs.amend (fun _ => rfl) hc hs.tree hs.limit (f := fun e => { e with holding := some d })
    ?_ (fun hl => hl) ?_ rfl rfl rfl ?_
  · exact hseats
  · intro h' hh'
    obtain rfl : d = h' := Option.some.inj hh'
    have hheld := hs.held hc hh
    exact ⟨htty ▸ hheld.1, hheld.2⟩
  · intro x hx
    rw [holding?_setHolding hc]
    split
    · rfl
    · exact hs.shown hx

end Consistent

/-! ### Every change keeps them consistent -/

/-- A server starts in a consistent state. -/
theorem start_consistent [Driver σ] (settings : Settings) (driver : σ) (console : UInt32)
    (table : DotTable) : ((start settings driver console).withTable table).Consistent := by
  have hclientsOf : ∀ id,
      ((start settings driver console).withTable table).tree.clientsOf id = [] :=
    TtyTree.clientsOf_withLimit settings.maxTtys
  constructor
  case tree => exact TtyTree.withLimit_sound settings.maxTtys
  case limit => rfl
  case ids => exact .nil
  case next => exact fun c hc => absurd hc List.not_mem_nil
  case seats =>
    constructor
    · intro c id
      have hplace : ((start settings driver console).withTable table).place c = none := rfl
      simp [hplace, hclientsOf]
    · intro id
      rw [hclientsOf]
      exact .nil
  case held =>
    intro id c h hc
    cases hc
  case raw =>
    intro id hr
    cases hr
  case shown =>
    intro id hl
    cases hl

namespace Consistent

/-- A connection that comes keeps the state consistent. -/
theorem arrive (hs : s.Consistent) (peer : String) (now : Nat) : ({ s with
    nextId := s.nextId + 1
    tree := s.tree.seat TtyTree.lobby ⟨s.nextId⟩
    clients := s.clients ++ [⟨⟨s.nextId⟩, peer, now, false, none⟩]
    waiting := s.waiting + 1 } : Server σ).Consistent := by
  constructor
  case tree => exact hs.tree.seat hs.tree.live_lobby _
  case limit => exact hs.limit
  case ids =>
    refine List.pairwise_append.2 ⟨hs.ids, List.pairwise_singleton _ _, fun a ha b hb => ?_⟩
    rw [List.mem_singleton.1 hb]
    exact hs.next a ha
  case next =>
    intro c hc
    rcases List.mem_append.1 hc with hc | hc
    · exact Nat.lt_succ_of_lt (hs.next c hc)
    · rw [List.mem_singleton.1 hc]
      exact Nat.lt_succ_self _
  case seats =>
    have hseat := hs.seats.seat hs.place_next hs.tree.live_lobby
    convert hseat using 1
    funext x
    rw [place, client?_of_append rfl hs.client?_next, Function.update_apply]
    split <;> rfl
  case held =>
    intro x c h hc hh
    rw [client?_of_append rfl hs.client?_next] at hc
    split at hc
    · cases hc
      cases hh
    · exact hs.held hc hh
  case raw =>
    intro x hr
    have hold := hs.raw hr
    unfold isLoggedIn at hold ⊢
    rw [client?_of_append rfl hs.client?_next]
    by_cases hx : x = ⟨s.nextId⟩
    · simp [hx, hs.client?_next] at hold
    · rwa [if_neg hx]
  case shown =>
    intro x hl
    rw [holding?_of_append rfl hs.client?_next rfl]
    exact hs.shown hl

/-- A login keeps the state consistent. -/
theorem logIn (hs : s.Consistent) (hc : s.client? c.id = some c) :
    (s.modifyClient c.id fun c => { c with loggedIn := true }).releaseWaiting.Consistent := by
  refine hs.amend (fun _ => rfl) hc hs.tree hs.limit (f := fun d => { d with loggedIn := true })
    ?_ (fun _ => rfl) ?_ rfl rfl rfl ?_
  · have hseat : ({ c with loggedIn := true } : Client).seat = c.seat := rfl
    rw [hseat, ← place_of_client? hc, Function.update_eq_self]
    exact hs.seats
  · exact fun hh => ⟨(hs.held hc hh).1, rfl⟩
  · intro x hx
    rw [holding?_logIn hc]
    exact hs.shown hx

/-- A client that has been given a tty sits there, and not in the lobby any more. -/
theorem settle (hs : s.Consistent) (hc : s.client? c.id = some c) (hl : c.loggedIn = true)
    (hh : c.holding = none) {path : List UInt32} {tree : TtyTree ClientId} {tty : TtyId}
    (ho : s.tree.Opens path tree tty) (hnew : h.tty = tty) :
    (({ s with tree := (tree.detach TtyTree.lobby c.id).seat tty c.id } : Server σ).setHolding c.id
      (some h)).Consistent := by
  obtain ⟨hbut, hlive, hne, -, hgrown⟩ := ho.sound hs.tree
  have hplace : s.place c.id = some TtyTree.lobby := by
    rw [place_of_client? hc, Client.seat_of_none hh]
  have hopen : (tree.detach TtyTree.lobby c.id).live tty := by simpa using hlive
  have hup := (hs.seats.of_clients hgrown.clients).detach hplace
  refine hs.amend (fun _ => rfl) hc (f := fun d => { d with holding := some h }) ?_ ?_ ?_
    (fun hl => hl) ?_ rfl rfl rfl ?_
  · exact (hbut.detach_lobby c.id).seat_spare hopen c.id
  · exact hgrown.limit.trans hs.limit
  · have hdown := hup.seat (Function.update_self ..) hopen
    rw [Function.update_idem] at hdown
    exact hnew ▸ hdown
  · intro h' hh'
    obtain rfl : h = h' := Option.some.inj hh'
    exact ⟨hnew ▸ hne, hl⟩
  · intro x hx
    rw [holding?_of_map (s := s) (f := fun d => { d with holding := some h }) (fun _ => rfl) hc rfl]
    split
    · rfl
    · exact hs.shown hx

/-- A client that has left its tty sits in the lobby. -/
theorem leave (hs : s.Consistent) (hc : s.client? c.id = some c) (hh : c.holding = some h) :
    ({ s.setHolding c.id none with
      tree := (((s.tree.detach h.tty c.id).seat TtyTree.lobby c.id).collect h.tty).1
      lastShown := if s.lastShown = some c.id then none else s.lastShown } :
      Server σ).Consistent := by
  have hplace : s.place c.id = some h.tty := by
    rw [place_of_client? hc, Client.seat_of_holding hh]
  have hlobby : (s.tree.detach h.tty c.id).live TtyTree.lobby := by
    simpa using hs.tree.live_lobby
  refine hs.amend (fun _ => rfl) hc (f := fun d => { d with holding := none }) ?_ ?_ ?_
    (fun hl => hl) ?_ rfl rfl rfl ?_
  · exact ((hs.tree.detach h.tty c.id).seat hlobby c.id).collect
  · exact (TtyTree.limit_collect ..).trans hs.limit
  · have hdown := (hs.seats.detach hplace).seat (Function.update_self ..) hlobby
    rw [Function.update_idem] at hdown
    exact hdown.of_clients fun x => TtyTree.clientsOf_collect ..
  · rintro h' ⟨⟩
  · intro x hx
    rw [holding?_of_map (s := s) (f := fun d => { d with holding := none }) (fun _ => rfl) hc rfl]
    simp only at hx
    split at hx
    · cases hx
    · rename_i hshown
      rw [if_neg (by rintro rfl; exact hshown hx)]
      exact hs.shown hx

/-- A client that is gone sits nowhere. -/
theorem depart (hs : s.Consistent) (hc : s.client? c.id = some c) {waiting : Nat}
    {refusalNoted : Bool} : ({ s with
      tree := ((s.tree.detach c.seat c.id).collect c.seat).1
      clients := s.clients.filter fun d => d.id != c.id
      waiting
      refusalNoted
      rawHolder := if s.rawHolder = some c.id then none else s.rawHolder
      lastShown := if s.lastShown = some c.id then none else s.lastShown } :
      Server σ).Consistent := by
  constructor
  case tree => exact (hs.tree.detach c.seat c.id).collect
  case limit => exact (TtyTree.limit_collect ..).trans hs.limit
  case ids => exact hs.ids.filter _
  case next => exact fun d hd => hs.next d (List.mem_filter.1 hd).1
  case seats =>
    -- clearing away moves nobody, so the seats are those after the departure
    have hup := (hs.seats.detach (place_of_client? hc)).of_clients
      fun x => TtyTree.clientsOf_collect (s.tree.detach c.seat c.id) c.seat x
    convert hup using 1
    funext x
    rw [place, client?_of_filter rfl, Function.update_apply]
    split <;> rfl
  case held =>
    intro x d h hd hh
    rw [client?_of_filter rfl] at hd
    split at hd
    · cases hd
    · exact hs.held hd hh
  case raw =>
    intro x hr
    simp only at hr
    split at hr
    · cases hr
    · rename_i hraw
      have hne : x ≠ c.id := by
        rintro rfl
        exact hraw hr
      have hold := hs.raw hr
      unfold isLoggedIn at hold ⊢
      rwa [client?_of_filter rfl, if_neg hne]
  case shown =>
    intro x hl
    simp only at hl
    split at hl
    · cases hl
    · rename_i hshown
      have hne : x ≠ c.id := by
        rintro rfl
        exact hshown hl
      rw [holding?_of_filter rfl, if_neg hne]
      exact hs.shown hl

/-- A tty that is held is there. -/
theorem live_of_holding (hs : s.Consistent) (hc : s.client? c.id = some c)
    (hh : c.holding = some h) : s.tree.live h.tty := by
  refine hs.seats.live (c := c.id) ?_
  rw [place_of_client? hc, Client.seat_of_holding hh]

/-- Every change keeps a state consistent. -/
theorem of_change {g : List Grant} (hs : s.Consistent) (h : Change s g t) : t.Consistent := by
  cases h with
  | quiet => exact hs.keep hs.tree hs.limit (fun _ => rfl) rfl rfl hs.raw hs.shown
  | point tty number =>
    have htree : (s.tree.adjust tty (fun _ => some number) fun cs => cs).Sound :=
      hs.tree.adjust_focus _
    exact hs.keep htree hs.limit (fun x => TtyTree.clientsOf_adjust_focus ..) rfl rfl hs.raw
      hs.shown
  | spend tree hsame hlimit =>
    exact hs.keep (hs.tree.of_ttys_eq hsame hlimit) (hlimit.trans hs.limit)
      (fun x => by simp only [TtyTree.clientsOf, TtyTree.find?, hsame]) rfl rfl hs.raw hs.shown
  | arrive peer now => exact hs.arrive peer now
  | logIn hc _ => exact hs.logIn hc
  | settle mode hc hl hh ho => exact hs.settle hc hl hh ho rfl
  | leave hc hh => exact hs.leave hc hh
  | remask mask hc hh => exact hs.rehold hc hh rfl
  | blank hc hh => exact hs.rehold hc hh rfl
  | draw payload hc hh _ => exact hs.rehold hc hh rfl
  | takeRaw hc hl _ =>
    refine hs.keep hs.tree hs.limit (fun _ => rfl) rfl rfl ?_ hs.shown
    rintro id ⟨⟩
    simp [isLoggedIn, hc, hl]
  | returnRaw => exact hs.keep hs.tree hs.limit (fun _ => rfl) rfl rfl (by simp) hs.shown
  | @present c h a hc hh =>
    have hset := hs.rehold (d := { h with freshness := .displayed }) hc hh rfl
    refine hset.keep hset.tree hset.limit (fun _ => rfl) rfl rfl hset.raw ?_
    rintro id ⟨⟩
    rw [holding?_setHolding hc, if_pos rfl]
    rfl
  | presentHost a cells =>
    exact hs.keep hs.tree hs.limit (fun _ => rfl) rfl rfl hs.raw (by simp [called])
  | depart hc => exact hs.depart hc

end Consistent

end BrailleShare.Server
