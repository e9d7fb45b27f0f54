import Pintle.Lib.Transition

/-!
# A log whose readers see published beginnings

Writers append entries to a log, a publisher moves a mark forward along it, and readers see the
entries before the mark. Nothing else is promised: the mark may skip entries and may lag behind the
log. So the readers of one log never go back (`run_ordered`), and one that reads while the mark
is at the end has seen every entry.
-/

namespace Pintle.Lib

/-- A log, and how many of its entries readers see. -/
structure Published (α : Type) where
  log : List α
  seen : Nat

/-- The labels of a run. -/
inductive PublishedEvent (α β : Type) where
  | appended (a : α)
  | published
  | read (b : β)

namespace PublishedEvent
variable {α β : Type}

/-- The entry an event appends. -/
def appended? : PublishedEvent α β → Option α
  | .appended a => some a
  | _ => none

/-- What an event reads. -/
def read? : PublishedEvent α β → Option β
  | .read b => some b
  | _ => none

end PublishedEvent

namespace Published
variable {α β : Type} (Answer : List α → β → Prop)

/-- One step of a writer, the publisher or a reader. -/
inductive Step : Published α → PublishedEvent α β → Published α → Prop where
  | append {s} (a : α) :
    Step s (.appended a) { s with log := s.log ++ [a] }
  | publish {s} (n : Nat) :
    s.seen < n →
    n ≤ s.log.length →
    Step s .published { s with seen := n }
  | read {s} (b : β) :
    Answer (s.log.take s.seen) b →
    Step s (.read b) s

/-- The system of all interleavings. -/
def system : System (Published α) (PublishedEvent α β) where
  init s := s = { log := [], seen := 0 }
  step := Step Answer

/-- The entries appended in a history, oldest first. -/
def entries (h : List (PublishedEvent α β)) : List α := (h.filterMap (·.appended?)).reverse

/-- What was read in a history, oldest first. -/
def reads (h : List (PublishedEvent α β)) : List β := (h.filterMap (·.read?)).reverse

/-- What was read carries the marks it was read at: they never go back, and each read is an answer
from the entries before its mark. -/
structure Ordered (s : Published α) (bs : List β) : Prop where
  bound : s.seen ≤ s.log.length
  marks : ∃ stamps : List (Nat × β), stamps.map (·.2) = bs ∧
    (∀ stamp ∈ stamps, stamp.1 ≤ s.seen ∧ Answer (s.log.take stamp.1) stamp.2) ∧
    stamps.Pairwise fun earlier later => earlier.1 ≤ later.1

variable {Answer} {h : List (PublishedEvent α β)} {s t : Published α} {e : PublishedEvent α β}

lemma entries_cons (e : PublishedEvent α β) (h : List (PublishedEvent α β)) :
    entries (e :: h) = entries h ++ e.appended?.toList := by
  cases appended : e.appended? <;> simp [entries, appended]

lemma reads_cons (e : PublishedEvent α β) (h : List (PublishedEvent α β)) :
    reads (e :: h) = reads h ++ e.read?.toList := by
  cases read : e.read? <;> simp [reads, read]

lemma step_ordered {bs : List β} (ordered : Ordered Answer s bs) (st : Step Answer s e t) :
    Ordered Answer t (bs ++ e.read?.toList) := by
  obtain ⟨bound, stamps, same, related, increasing⟩ := ordered
  cases st with
  | append a =>
    refine ⟨by simp only [List.length_append]; omega, stamps, ?_, ?_, increasing⟩
    · rw [same]
      exact (List.append_nil bs).symm
    · intro stamp member
      obtain ⟨before, answer⟩ := related stamp member
      refine ⟨before, ?_⟩
      rw [List.take_append_of_le_length (Nat.le_trans before bound)]
      exact answer
  | publish n further bound' =>
    refine ⟨bound', stamps, ?_, ?_, increasing⟩
    · rw [same]
      exact (List.append_nil bs).symm
    · intro stamp member
      obtain ⟨before, answer⟩ := related stamp member
      exact ⟨Nat.le_trans before (Nat.le_of_lt further), answer⟩
  | read b answer =>
    refine ⟨bound, stamps ++ [(s.seen, b)], by simp [same, PublishedEvent.read?], ?_, ?_⟩
    · intro stamp member
      rcases List.mem_append.mp member with old | new
      · exact related stamp old
      · rw [List.mem_singleton.mp new]
        exact ⟨Nat.le_refl _, answer⟩
    · refine List.pairwise_append.mpr ⟨increasing, by simp, ?_⟩
      intro earlier old later new
      rw [List.mem_singleton.mp new]
      exact (related earlier old).1

/-- Along every run the log is what was appended, and what was read never goes back. -/
theorem run_ordered (run : (system Answer).Run h s) :
    s.log = entries h ∧ Ordered Answer s (reads h) := by
  refine System.Run.invariant (fun h s => s.log = entries h ∧ Ordered Answer s (reads h)) ?_ ?_ run
  · rintro _ rfl
    exact ⟨rfl, Nat.le_refl _, [], rfl, List.forall_mem_nil _, .nil⟩
  · intro h s e t _ inv st
    refine ⟨?_, reads_cons e h ▸ step_ordered inv.2 st⟩
    rw [entries_cons, ← inv.1]
    cases st with
    | append a => rfl
    | publish n _ _ => exact (List.append_nil _).symm
    | read b _ => exact (List.append_nil _).symm

end Published
end Pintle.Lib
