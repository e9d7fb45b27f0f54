import Pintle.Router.Rotation

/-!
# Rotation over reloads

Every `Update` makes fresh counters, so the rotation of a pool begins again at its first member, also
where the pool itself did not change. Each reload costs the fairness at most one selection, always in
favour of the members listed earlier (`rotation_over_reloads`); with one request after each reload the
first member gets them all (`rotation_over_reloads_first`).
-/

namespace Pintle
open Go Lib

/-- Every list given to `Update` in a history has fair pools. -/
def AlwaysFair (h : List ServingEvent) : Prop :=
  ∀ routes, .background (.updated routes) ∈ h → FairPools routes

/-- The number of `Update` calls in a history. -/
def updates (h : List ServingEvent) : Nat := h.countP (·.isUpdate)

lemma AlwaysFair.last {h : List ServingEvent} (fair : AlwaysFair h) : FairPools (lastRoutes h) := by
  induction h with
  | nil => exact ⟨List.forall_mem_nil _, List.forall_mem_nil _⟩
  | cons e h ih =>
    have older : FairPools (lastRoutes h) :=
      ih fun routes member => fair routes (List.mem_cons_of_mem e member)
    cases updated : e.isUpdate with
    | false =>
      rw [lastRoutes_cons updated]
      exact older
    | true =>
      cases e with
      | background e =>
        cases e with
        | updated routes => exact fair routes List.mem_cons_self
        | _ => cases updated
      | _ => cases updated

/-- An `Update` selects nothing, and nothing has been selected since. -/
lemma sinceUpdate_update {e : ServingEvent} {h : List ServingEvent} (updated : e.isUpdate = true) :
    sinceUpdate (e :: h) = [] := by
  simp [sinceUpdate, updated]

lemma selected_update {e : ServingEvent} (updated : e.isUpdate = true) (hostname pool : GoString) :
    e.selected? hostname pool = none := by
  cases e with
  | background e => rfl
  | _ => cases updated

lemma countP_sinceUpdate (h : List ServingEvent) :
    (sinceUpdate h).countP (·.isCall) ≤ h.countP (·.isCall) :=
  (List.takeWhile_sublist _).countP_le

namespace Serving

/-- A call that selects from the pool found these members. -/
def Offers {ρ : Type} (hostname pool : GoString) (members : List Route) (s : Serving ρ) :
    ServingEvent → Prop
  | .selected caller _ _ route => route.hostname = hostname → route.backendPool = pool →
    ∀ call, s.calls caller = some call → call.members = members
  | _ => True

/-- The selections of a stretch: those before its last `Update`, and the turns since. -/
structure Rotated (hostname pool : GoString) {members : List Route} (live : members ≠ [])
    (h k : List ServingEvent) (older : List Route) (position : Nat) : Prop where
  split : selections hostname pool k = older ++ turns live position
    ((selections hostname pool (sinceUpdate (k ++ h))).length - position)
  behind : position ≤ (selections hostname pool (sinceUpdate (k ++ h))).length
  near : ∀ a b, members.count a = 1 → members.count b = 1 →
    older.count a ≤ older.count b + updates k
  ordered : selections hostname pool (sinceUpdate h) = [] → position = 0 ∧
    ∀ a b, members.count a = 1 → members.count b = 1 → members.idxOf a ≤ members.idxOf b →
      older.count b ≤ older.count a

variable {ρ : Type} [Regexp ρ] {hostname pool : GoString} {members : List Route}

/-- A selection from the pool is the next turn of the members it was offered. -/
lemma offered_turn {h : List ServingEvent} {s t : Serving ρ} {e : ServingEvent}
    (run : (system ρ).Run h s) (fair : FairPools (lastRoutes h)) (live : members ≠ [])
    (offers : Offers hostname pool members s e)
    (few : (sinceUpdate h).countP (·.isCall) < 2 ^ 64) (st : Step s e t) :
    (e.selected? hostname pool).toList =
      turns live (selections hostname pool (sinceUpdate h)).length
        (e.selected? hostname pool).toList.length := by
  cases chosen : e.selected? hostname pool with
  | none => rfl
  | some route =>
    have steady : s.probing.router.poolMembers (lastRoutes h) hostname pool = members := by
      cases st with
      | select caller call running =>
        obtain ⟨count, selection⟩ := run_selection run fair running
        generalize (s.probing.router.complete (.select call.res call.members call.live)).1.route =
          picked at selection chosen offers
        rw [ServingEvent.selected?] at chosen
        split at chosen
        · rename_i same
          have found := selection.members
          rw [same.1, same.2] at found
          exact found.symm.trans (offers same.1 same.2 call running)
        · cases chosen
      | _ => cases chosen
    have turn := select_turn run fair live steady few st
    rw [chosen] at turn
    exact turn

omit [Regexp ρ] in
/-- At an `Update` the rotation begins again. -/
lemma Rotated.reload {live : members ≠ []} {h k : List ServingEvent}
    {older : List Route} {position : Nat} {e : ServingEvent}
    (inv : Rotated hostname pool live h k older position) (updated : e.isUpdate = true) :
    Rotated hostname pool live h (e :: k) (selections hostname pool k) 0 where
  split := by
    rw [selections_cons, selected_update updated, List.cons_append, sinceUpdate_update updated]
    simp [selections]
  behind := Nat.zero_le _
  near a b once once' := by
    have older := inv.near a b once once'
    have turned := count_turns_le live once once' position
      ((selections hostname pool (sinceUpdate (k ++ h))).length - position)
    rw [inv.split, List.count_append, List.count_append, updates, List.countP_cons, updated]
    rw [updates] at older
    simp only [if_true]
    omega
  ordered fresh := by
    obtain ⟨start, older⟩ := inv.ordered fresh
    refine ⟨rfl, ?_⟩
    intro a b once once' before
    have turned := count_turns_order live once once' before
      ((selections hostname pool (sinceUpdate (k ++ h))).length - position)
    have behind := older a b once once' before
    rw [inv.split, List.count_append, List.count_append, start]
    rw [start] at turned
    omega

omit [Regexp ρ] in
/-- Between two `Update` calls it goes on. -/
lemma Rotated.go {live : members ≠ []} {h k : List ServingEvent} {older : List Route}
    {position : Nat} {e : ServingEvent} (inv : Rotated hostname pool live h k older position)
    (quiet : e.isUpdate = false)
    (turn : (e.selected? hostname pool).toList =
      turns live (selections hostname pool (sinceUpdate (k ++ h))).length
        (e.selected? hostname pool).toList.length) :
    Rotated hostname pool live h (e :: k) older position where
  split := by
    have behind := inv.behind
    rw [List.cons_append, sinceUpdate_cons quiet, selections_cons, selections_cons, inv.split,
      List.append_assoc, List.length_append, Nat.sub_add_comm behind, turns_add,
      Nat.add_sub_cancel' behind, ← turn]
  behind := by
    rw [List.cons_append, sinceUpdate_cons quiet, selections_cons, List.length_append]
    exact inv.behind.trans (Nat.le_add_right _ _)
  near a b once once' := by
    rw [updates, List.countP_cons, quiet]
    exact inv.near a b once once'
  ordered := inv.ordered

/-- Fairness over reloads. Take any run of concurrent `Resolve` calls and `Update` calls, with fewer
than 2^64 calls, and any stretch of it in which every call that selects from a pool found the same
members. Then two members that are listed once are selected equally often up to one, and one more for
each `Update` in the stretch. If nothing was selected from the pool since the last `Update` before the
stretch, a member listed earlier is never selected less often than one listed later. -/
theorem rotation_over_reloads {h k : List ServingEvent} {s t : Serving ρ}
    (run : (system ρ).Run h s) (live : members ≠ [])
    (path : ((system ρ).restrict (Offers hostname pool members)).Path s k t)
    (fair : AlwaysFair (k ++ h)) (few : (k ++ h).countP (·.isCall) < 2 ^ 64) {a b : Route}
    (once : members.count a = 1) (once' : members.count b = 1) :
    (selections hostname pool k).count a ≤ (selections hostname pool k).count b + updates k + 1 ∧
      (selections hostname pool (sinceUpdate h) = [] → members.idxOf a ≤ members.idxOf b →
        (selections hostname pool k).count b ≤ (selections hostname pool k).count a) := by
  obtain ⟨older, position, inv⟩ : ∃ older position, Rotated hostname pool live h k older position := by
    induction path with
    | refl =>
      refine ⟨[], (selections hostname pool (sinceUpdate h)).length, ?_, le_rfl, ?_, ?_⟩
      · simp [selections]
      · exact fun _ _ _ _ => Nat.zero_le _
      · exact fun fresh => ⟨by rw [fresh]; rfl, fun _ _ _ _ _ => le_rfl⟩
    | @next k u e v path st ih =>
      obtain ⟨step, offers⟩ := st
      have fair' : AlwaysFair (k ++ h) := fun routes member => fair routes (List.mem_cons_of_mem e member)
      have few' : (k ++ h).countP (·.isCall) < 2 ^ 64 := by
        rw [List.cons_append, List.countP_cons] at few
        omega
      obtain ⟨older, position, inv⟩ := ih fair' few'
      cases updated : e.isUpdate with
      | true => exact ⟨_, 0, inv.reload updated⟩
      | false =>
        have turn := offered_turn (run.append path.of_restrict) fair'.last live offers
          ((countP_sinceUpdate _).trans_lt few') step
        exact ⟨older, position, inv.go updated turn⟩
  refine ⟨?_, ?_⟩
  · have near := inv.near a b once once'
    have turned := count_turns_le live once once' position
      ((selections hostname pool (sinceUpdate (k ++ h))).length - position)
    rw [inv.split, List.count_append, List.count_append]
    omega
  · intro fresh before
    obtain ⟨start, ordered⟩ := inv.ordered fresh
    have behind := ordered a b once once' before
    have turned := count_turns_order live once once' before
      ((selections hostname pool (sinceUpdate (k ++ h))).length - position)
    rw [inv.split, List.count_append, List.count_append, start]
    rw [start] at turned
    omega

/-- With one request after each reload the first member of the pair gets them all. -/
theorem rotation_over_reloads_first : ∃ h k, ∃ t : Serving Empty,
    (system Empty).Run h pairRouted ∧ (system Empty).Path pairRouted k t ∧ updates k = 1 ∧
      selections (lit "a") (lit "static:0") k =
        [twin (lit "http://one"), twin (lit "http://one")] ∧
      (selections (lit "a") (lit "static:0") k).count (twin (lit "http://one")) ≤
        (selections (lit "a") (lit "static:0") k).count (twin (lit "http://two")) + updates k + 1 := by
  have run : (system Empty).Run [.background (.updated pair)] pairRouted :=
    .next (.start rfl) (.background (.updated pair) _ (.update .stored pair) nofun (.inl fun _ => rfl))
  have offered (call : ResolveCall) (found : some pairCall = some call) : call.members = pair := by
    cases found
    rfl
  have path := System.Path.next
    (M := (system Empty).restrict (Offers (lit "a") (lit "static:0") pair)) (s := pairRouted) .refl
    ⟨.enter 0 (lit "a") (lit "/") pairCall.res pair pairCall.live rfl rfl, trivial⟩
  have path := path.next ⟨.select 0 pairCall rfl, fun _ _ => offered⟩
  have path := path.next ⟨.background (.updated pair) _ (.update .stored pair) nofun
    (.inl fun caller => by simp [Function.update_apply, pairRouted]), trivial⟩
  have path := path.next
    ⟨.enter 0 (lit "a") (lit "/") pairCall.res pair pairCall.live rfl rfl, trivial⟩
  have path := path.next ⟨.select 0 pairCall rfl, fun _ _ => offered⟩
  have fair : FairPools pair := by
    refine ⟨?_, ?_⟩ <;> decide
  have fairness := rotation_over_reloads run pairCall.live path ?_ (by decide)
    (a := twin (lit "http://one")) (b := twin (lit "http://two")) (by decide) (by decide)
  · exact ⟨_, _, _, run, path.of_restrict, rfl, by decide, fairness.1⟩
  · intro routes member
    simp only [List.cons_append, List.nil_append, List.mem_cons, reduceCtorEq, false_or,
      ServingEvent.background.injEq, HealthEvent.updated.injEq, List.not_mem_nil, or_false,
      or_self] at member
    rw [member]
    exact fair

end Serving
end Pintle
