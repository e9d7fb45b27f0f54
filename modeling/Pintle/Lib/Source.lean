import Pintle.Lib.Transition

/-!
# Only the newest request publishes

A source of requests, each of which supersedes the one before it. Only the newest request publishes,
and only once; closing supersedes it for good. Along any run the publications come in the order of
the requests (`publications_increasing`), and the newest request is pending exactly as long as it has
not published (`pending_iff`).
-/

namespace Pintle.Lib

/-- The number of the newest request, whether its publication is pending, and whether the source has
been closed. -/
structure Source where
  newest : Nat
  pending : Bool
  closed : Bool

namespace Source
variable {α : Type}

/-- The labels of a run. -/
inductive Event (α : Type) where
  | start
  | publish (request : Nat) (a : α)
  | close

/-- A request starts, the newest one publishes, or the source is closed. -/
inductive Step : Source → Event α → Source → Prop where
  | start {s} :
    s.closed = false →
    Step s .start { s with newest := s.newest + 1, pending := true }
  | publish {s} (a : α) :
    s.pending = true →
    Step s (.publish s.newest a) { s with pending := false }
  | close {s} :
    Step s .close { newest := s.newest + 1, pending := false, closed := true }

/-- A source without requests. -/
def initial : Source := { newest := 0, pending := false, closed := false }

/-- The system of a source. -/
def system (α : Type) : System Source (Event α) where
  init s := s = initial
  step := Step

/-- What has been published and by which request, newest first. -/
def publications : List (Event α) → List (Nat × α) :=
  List.filterMap fun
    | .publish request a => some (request, a)
    | _ => none

/-- A pending request is newer than what has been published. -/
structure Inv (h : List (Event α)) (s : Source) : Prop where
  bound : ∀ p ∈ publications h, p.1 ≤ s.newest
  fresh : s.pending = true → ∀ p ∈ publications h, p.1 < s.newest
  done : s.closed = false → 0 < s.newest → s.pending = false →
    ∃ a, (s.newest, a) ∈ publications h
  increasing : (publications h).Pairwise fun later earlier => earlier.1 < later.1

lemma Inv.step {h : List (Event α)} {s t : Source} {e : Event α} (inv : Inv h s)
    (st : Step s e t) : Inv (e :: h) t := by
  cases st with
  | start opened =>
    exact
      { bound := fun p member => Nat.le_succ_of_le (inv.bound p member)
        fresh := fun _ p member => Nat.lt_succ_of_le (inv.bound p member)
        done := fun _ _ pending => by cases pending
        increasing := inv.increasing }
  | publish a pending =>
    have newer := inv.fresh pending
    refine ⟨?_, nofun, fun _ _ _ => ⟨a, List.mem_cons_self⟩, .cons newer inv.increasing⟩
    intro p member
    rcases List.mem_cons.mp member with rfl | old
    · exact Nat.le_refl _
    · exact inv.bound p old
  | close =>
    exact
      { bound := fun p member => Nat.le_succ_of_le (inv.bound p member)
        fresh := nofun
        done := nofun
        increasing := inv.increasing }

lemma inv_run {h : List (Event α)} {s : Source} (run : (system α).Run h s) : Inv h s :=
  run.invariant Inv
    (fun s ini => by
      cases ini
      exact ⟨nofun, nofun, fun _ some => absurd some (Nat.lt_irrefl 0), .nil⟩)
    fun _ _ _ _ _ inv st => inv.step st

/-- Publications come in the order of the requests. -/
theorem publications_increasing {h : List (Event α)} {s : Source} (run : (system α).Run h s) :
    (publications h).Pairwise fun later earlier => earlier.1 < later.1 :=
  (inv_run run).increasing

/-- While the source is open, the newest request is pending until it publishes. -/
theorem pending_iff {h : List (Event α)} {s : Source} (run : (system α).Run h s)
    (opened : s.closed = false) (some : 0 < s.newest) :
    s.pending = true ↔ ∀ a, (s.newest, a) ∉ publications h := by
  have inv := inv_run run
  constructor
  · intro pending a member
    exact Nat.lt_irrefl _ (inv.fresh pending _ member)
  · intro unpublished
    rw [← Bool.not_eq_false]
    intro idle
    obtain ⟨a, member⟩ := inv.done opened some idle
    exact unpublished a member

end Source
end Pintle.Lib
