import Pintle.Aggregator.Merge

/-!
# The current passthrough domains

Model of `GetCurrentPassthrough` of `internal/aggregator/aggregator.go`. `merge` keeps the last
message with passthrough domains that it visits, the getter returns the first. `Configs.Yields` says
which lists either of them may come to.
-/

namespace Pintle
open Go

/-- The order that visits one entry last. -/
def Go.RangeOrder.visitLast {α : Type} [DecidableEq α] (a : α) : RangeOrder α where
  visit l := if a ∈ l then l.erase a ++ [a] else l
  perm l := by
    split
    · rename_i member
      exact (List.perm_append_singleton _ _).trans (List.perm_cons_erase member).symm
    · exact .refl l

/-- Go `GetCurrentPassthrough`. -/
def getCurrentPassthrough (ord : RangeOrder (GoString × Message)) (configs : Configs) :
    List PassthroughDomain :=
  match (ord.visit configs.pairs).find? (·.2.passthrough.length > 0) with
  | none => []
  | some (_, msg) => msg.passthrough

/-- The passthrough domains that some messages yield: those of one that has any. -/
inductive Configs.Yields (configs : Configs) : List PassthroughDomain → Prop where
  | entries {provider msg} :
    configs.lookup provider = some msg →
    msg.passthrough ≠ [] →
    Yields configs msg.passthrough
  | nothing :
    (∀ provider msg, configs.lookup provider = some msg → msg.passthrough = []) →
    Yields configs []

lemma getCurrentPassthrough_yields (ord : RangeOrder (GoString × Message)) (configs : Configs) :
    configs.Yields (getCurrentPassthrough ord configs) := by
  unfold getCurrentPassthrough
  split
  · rename_i found
    refine .nothing ?_
    intro provider msg stored
    have visited := ord.mem_visit.mpr (GoMap.mem_pairs.mpr stored)
    simpa using List.find?_eq_none.mp found _ visited
  · rename_i provider msg found
    have visited := ord.mem_visit.mp (List.mem_of_find?_eq_some found)
    exact .entries (GoMap.mem_pairs.mp visited)
      (List.ne_nil_of_length_pos (by simpa using List.find?_some found))

lemma merge_yields (ord : RangeOrder (GoString × Message)) (configs : Configs) :
    configs.Yields (merge ord configs).passthrough := by
  rw [merge_passthrough]
  cases last : (((ord.visit configs.pairs).map (·.2.passthrough)).filter (· ≠ [])).getLast? with
  | none =>
    refine .nothing ?_
    intro provider msg stored
    have visited := ord.mem_visit.mpr (GoMap.mem_pairs.mpr stored)
    have dropped := List.filter_eq_nil_iff.mp (List.getLast?_eq_none_iff.mp last) _
      (List.mem_map_of_mem visited)
    simpa using dropped
  | some passthrough =>
    obtain ⟨listed, some⟩ := List.mem_filter.mp (List.mem_of_getLast? last)
    obtain ⟨⟨provider, msg⟩, visited, rfl⟩ := List.mem_map.mp listed
    exact .entries (GoMap.mem_pairs.mp (ord.mem_visit.mp visited)) (by simpa using some)

/-- Every list that the messages yield is that of some merge. -/
lemma Configs.Yields.merged {configs : Configs} {passthrough : List PassthroughDomain}
    (yields : configs.Yields passthrough) :
    ∃ ord, (merge ord configs).passthrough = passthrough := by
  cases yields with
  | @entries provider msg stored some =>
    -- visit that message last
    refine ⟨.visitLast (provider, msg), ?_⟩
    rw [merge_passthrough, RangeOrder.visitLast]
    dsimp only
    rw [if_pos (GoMap.mem_pairs.mpr stored), List.map_append, List.filter_append]
    simp [some]
  | nothing empty =>
    refine ⟨.stored, ?_⟩
    have yields := merge_yields .stored configs
    generalize (merge .stored configs).passthrough = passthrough at yields
    cases yields with
    | entries stored some => exact absurd (empty _ _ stored) some
    | nothing _ => rfl

end Pintle
