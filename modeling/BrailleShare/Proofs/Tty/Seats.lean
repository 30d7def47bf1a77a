import BrailleShare.Proofs.Tty.Creation
import Mathlib.Data.List.Nodup
import Mathlib.Logic.Function.Basic

/-!
# Who sits where

A tree seats its clients as a *plan* says if every client sits in the tty that the plan has for it,
once, and nowhere else. Each move of a client changes the plan for this client alone.

Main statements: getting up (`Seats.detach`) and sitting down (`Seats.seat`) change the plan at one
client, and what takes no client away keeps it (`Seats.of_clients`).
-/

namespace BrailleShare.TtyTree

variable {α : Type} {t t' : TtyTree α} {id : TtyId} {c : α} {plan : α → Option TtyId}

/-- Every client sits where the plan has it, once. -/
structure Seats (t : TtyTree α) (plan : α → Option TtyId) : Prop where
  mem_iff : ∀ {c id}, c ∈ t.clientsOf id ↔ plan c = some id
  nodup : ∀ id, (t.clientsOf id).Nodup

namespace Seats

/-- The plan stays right while the clients stay where they are. -/
theorem of_clients (h : t.Seats plan) (hc : ∀ x, t'.clientsOf x = t.clientsOf x) :
    t'.Seats plan where
  mem_iff := by intro c id; rw [hc]; exact h.mem_iff
  nodup := by intro id; rw [hc]; exact h.nodup id

/-- A client has a place only in a tty that is there. -/
theorem live (h : t.Seats plan) (hp : plan c = some id) : t.live id :=
  live_of_mem_clientsOf (h.mem_iff.2 hp)

/-- The clients of a tree are those that have a place. -/
theorem mem_allClients_iff (h : t.Seats plan) (ho : t.Ordered) :
    c ∈ t.allClients ↔ ∃ id, plan c = some id := by
  simp only [allClients, List.mem_flatMap]
  constructor
  · rintro ⟨n, hn, hc⟩
    rw [← ho.clientsOf_of_mem hn] at hc
    exact ⟨n.id, h.mem_iff.1 hc⟩
  · rintro ⟨id, hp⟩
    have hc := h.mem_iff.2 hp
    obtain ⟨n, hn⟩ := Option.isSome_iff_exists.1 (live_of_mem_clientsOf hc)
    refine ⟨n, mem_of_find? hn, ?_⟩
    simpa [clientsOf, hn] using hc

/-- No client is in the tree twice. -/
theorem allClients_nodup (h : t.Seats plan) (ho : t.Ordered) : t.allClients.Nodup := by
  rw [allClients, List.nodup_flatMap]
  constructor
  · intro n hn
    rw [← ho.clientsOf_of_mem hn]
    exact h.nodup n.id
  · refine List.Pairwise.imp_of_mem (fun {m n} hm hn hlt => ?_) ho
    -- a client of two ttys would have two places
    intro c hcm hcn
    dsimp only at hcm hcn
    rw [← ho.clientsOf_of_mem hm] at hcm
    rw [← ho.clientsOf_of_mem hn] at hcn
    have hsame := (h.mem_iff.1 hcm).symm.trans (h.mem_iff.1 hcn)
    rw [Option.some.inj hsame] at hlt
    exact Nat.lt_irrefl _ hlt

variable [DecidableEq α]

/-- A client that gets up has no place. -/
theorem detach (h : t.Seats plan) (hp : plan c = some id) :
    (t.detach id c).Seats (Function.update plan c none) where
  mem_iff := by
    intro d x
    rw [clientsOf_detach]
    by_cases hd : d = c
    · subst d
      -- a client sits in one tty alone, and is taken out of that
      have hne : x ≠ id → c ∉ t.clientsOf x := fun hx hm => by
        have := h.mem_iff.1 hm
        rw [hp] at this
        exact hx (Option.some.inj this).symm
      split <;> simp_all
    · rw [Function.update_of_ne hd, ← h.mem_iff]
      split <;> simp [hd]
  nodup x := by
    rw [clientsOf_detach]
    split
    · exact (h.nodup x).filter _
    · exact h.nodup x

/-- A client that has no place may sit down in any tty that is there. -/
theorem seat (h : t.Seats plan) (hp : plan c = none) (hl : t.live id) :
    (t.seat id c).Seats (Function.update plan c (some id)) where
  mem_iff := by
    intro d x
    rw [clientsOf_seat id x c hl]
    by_cases hd : d = c
    · subst d
      have hout : c ∉ t.clientsOf x := fun hm => by simp [h.mem_iff.1 hm] at hp
      split
      · simp_all
      · rename_i hx
        have hne : ¬ id = x := fun he => hx he.symm
        simp [hout, hne]
    · rw [Function.update_of_ne hd, ← h.mem_iff]
      split <;> simp [hd]
  nodup x := by
    rw [clientsOf_seat id x c hl]
    split
    · refine List.nodup_append.2 ⟨h.nodup x, List.nodup_singleton c, fun d hd e he => ?_⟩
      rintro rfl
      rw [List.mem_singleton.1 he] at hd
      simp [h.mem_iff.1 hd] at hp
    · exact h.nodup x

end Seats

end BrailleShare.TtyTree
