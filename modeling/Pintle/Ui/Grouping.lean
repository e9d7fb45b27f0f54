import Pintle.Lib.OrderedMap
import Pintle.Ui.Strings
import Mathlib.Data.List.Sort

/-!
# Grouping of services

Model of `groupRoutes` of `ui/src/components/grouping.ts` with the keys under which it collects
routes. The comparison of strings, `localeCompare`, depends on the locale and is a parameter.
-/

namespace Pintle.Grouping
open Ui Lib
open scoped List

/-- TypeScript `SourceKind`. -/
inductive SourceKind where
  | docker
  | static
  | traefik
  deriving DecidableEq

/-- The value of a source kind. -/
def SourceKind.value : SourceKind → JsString
  | docker => js "docker"
  | static => js "static"
  | traefik => js "traefik"

/-- TypeScript `ProxyRoute`. -/
structure ProxyRoute where
  hostname : JsString
  path : JsString
  target : JsString
  stripPath : Bool
  source : SourceKind
  containerName : Option JsString
  deriving DecidableEq

/-- TypeScript `GroupingMode`, with `byPrefix` for `'prefix'`. -/
inductive GroupingMode where
  | none
  | domain
  | source
  | byPrefix
  deriving DecidableEq

/-- TypeScript `ServiceGroup`. -/
structure ServiceGroup where
  key : JsString
  label : JsString
  routes : List ProxyRoute
  deriving DecidableEq

/-- TypeScript `OTHER_KEY`. -/
def otherKey : JsString := js "__other"

/-- TypeScript `looksLikeRegex`. -/
def looksLikeRegex (hostname : JsString) : Bool :=
  hostname.any (· ∈ js "^$()[]\\|") || includes hostname (js ".*") || includes hostname (js ".+")

/-- The replacement of `/^\(\?[a-z]+\)/` by nothing. -/
def dropFlags : JsString → JsString
  | 40 :: 63 :: s =>
    let flags := s.takeWhile fun c => 97 ≤ c && c ≤ 122
    match s.drop flags.length with
    | 41 :: rest => if flags = [] then 40 :: 63 :: s else rest
    | _ => 40 :: 63 :: s
  | s => s

/-- The replacement of `/^\^/` by nothing. -/
def dropCaret : JsString → JsString
  | 94 :: s => s
  | s => s

/-- The replacement of `/\$$/` by nothing. -/
def dropDollar (s : JsString) : JsString := if s.getLast? = some 36 then s.dropLast else s

/-- The units of `/[a-z0-9*-]/i`. -/
def isLabelUnit (c : UInt16) : Bool :=
  (97 ≤ c && c ≤ 122) || (65 ≤ c && c ≤ 90) || (48 ≤ c && c ≤ 57) || c = 42 || c = 45

/-- The collapsed form of a pattern. -/
def collapse (hostname : JsString) : JsString :=
  let collapsed := dropDollar (dropCaret (dropFlags (trim hostname)))
  let collapsed := replaceAll collapsed [(· = 92), (· = 46)] (js ".")
  let collapsed := replaceAll collapsed [(· = 91), (· = 46), (· = 93)] (js ".")
  let collapsed :=
    replaceAll collapsed [(· = 91), (· = 94), anyUnit, (· = 93), (· = 43)] (js "*")
  let collapsed :=
    replaceAll collapsed [(· = 91), (· = 94), anyUnit, (· = 93), (· = 42)] (js "*")
  let collapsed := replaceAll collapsed [(· = 46), (· = 42)] (js "*")
  replaceAll collapsed [(· = 46), (· = 43)] (js "*")

/-- A label of a collapsed pattern, or a wildcard where it is still a pattern. -/
def toLabel (label : JsString) : JsString :=
  if label ≠ [] ∧ label.all isLabelUnit then label else js "*"

/-- TypeScript `normalizeHostname`. -/
def normalizeHostname (hostname : JsString) : JsString :=
  if !looksLikeRegex hostname then hostname
  else join ((split (collapse hostname) 46).map toLabel) 46

example : normalizeHostname (js "^[^.]+[.]example[.]com$") = js "*.example.com" := by decide

/-- TypeScript `baseDomain`. -/
def baseDomain (hostname : JsString) : JsString :=
  let parts := split (normalizeHostname hostname) 46
  if parts.length ≤ 2 then join parts 46 else join (parts.drop (parts.length - 2)) 46

/-- TypeScript `hostPrefix`. -/
def hostPrefix (hostname : JsString) : JsString :=
  let firstLabel := (split (normalizeHostname hostname) 46).headD []
  (split firstLabel 45).headD []

/-- TypeScript `groupKey`. -/
def groupKey (mode : GroupingMode) (route : ProxyRoute) : JsString :=
  match mode with
  | .source => route.source.value
  | .byPrefix => hostPrefix route.hostname
  | .none | .domain => baseDomain route.hostname

/-- The buckets of routes, by their keys. -/
abbrev Buckets := OrderedMap JsString (List ProxyRoute)

/-- The body of the loop that takes out the buckets with one route. -/
def takeSingle (s : Buckets × List ProxyRoute) (entry : JsString × List ProxyRoute) :
    Buckets × List ProxyRoute :=
  match entry.2 with
  | [route] => (s.1.delete entry.1, s.2 ++ [route])
  | _ => s

/-- What prefix mode does to the buckets. The loop deletes only the entry that it is at, so that it
goes through the entries with which it begins. -/
def mergeSingles (buckets : Buckets) : Buckets :=
  let (buckets, singles) := buckets.entries.foldl takeSingle (buckets, [])
  if singles.length > 0 then buckets.set otherKey singles else buckets

/-- The buckets from which the groups are made. -/
def collect (routes : List ProxyRoute) (mode : GroupingMode) : Buckets :=
  let collected := buckets (groupKey mode) routes
  if mode = .byPrefix then mergeSingles collected else collected

section
variable (localeCompare : JsString → JsString → Int)

/-- JavaScript `sort`, which is stable. -/
def sort {α : Type} (compare : α → α → Int) (l : List α) : List α :=
  l.insertionSort fun left right => compare left right ≤ 0

/-- The group of a bucket. -/
def toGroup (entry : JsString × List ProxyRoute) : ServiceGroup where
  key := entry.1
  label := if entry.1 = otherKey then js "other" else entry.1
  routes := sort (fun left right => localeCompare left.hostname right.hostname) entry.2

/-- The order of groups, the catch-all last. -/
def compareGroups (left right : ServiceGroup) : Int :=
  if left.key = otherKey then 1
  else if right.key = otherKey then -1
  else localeCompare left.label right.label

/-- TypeScript `groupRoutes`. -/
def groupRoutes (routes : List ProxyRoute) (mode : GroupingMode) : List ServiceGroup :=
  sort (compareGroups localeCompare) ((collect routes mode).entries.map (toGroup localeCompare))

end

lemma sort_perm {α : Type} (compare : α → α → Int) (l : List α) : sort compare l ~ l :=
  List.perm_insertionSort _ l

lemma toLabel_units (label : JsString) : ∀ c ∈ toLabel label, isLabelUnit c = true := by
  rw [toLabel]
  split
  · rename_i plain
    exact List.all_eq_true.mp plain.2
  · intro c wildcard
    rw [List.mem_singleton.mp wildcard]
    rfl

lemma normalizeHostname_plain {hostname : JsString} (plain : looksLikeRegex hostname = false) :
    normalizeHostname hostname = hostname := by
  rw [normalizeHostname, plain]
  rfl

/-- The units of a normalised pattern. -/
lemma normalizeHostname_regex {hostname : JsString} (regex : looksLikeRegex hostname = true) :
    ∀ c ∈ normalizeHostname hostname, isLabelUnit c = true ∨ c = 46 := by
  rw [normalizeHostname, regex, Bool.not_true, if_neg Bool.false_ne_true]
  apply forall_join
  · exact .inr rfl
  · intro part member c inside
    obtain ⟨label, _, rfl⟩ := List.mem_map.mp member
    exact .inl (toLabel_units label c inside)

lemma hostPrefix_eq (hostname : JsString) :
    hostPrefix hostname = (normalizeHostname hostname).takeWhile fun c => c ≠ 45 ∧ c ≠ 46 := by
  rw [hostPrefix, headD_split, headD_split, List.takeWhile_takeWhile]
  simp

/-- Whether the prefix of a hostname is the key of the catch-all: no pattern, and the key alone or
before a dot or a hyphen. -/
def reserved (hostname : JsString) : Bool :=
  !looksLikeRegex hostname &&
    (hostname = otherKey || (otherKey ++ [46]).isPrefixOf hostname ||
      (otherKey ++ [45]).isPrefixOf hostname)

lemma reserved_plain {hostname : JsString} (plain : looksLikeRegex hostname = false) :
    reserved hostname = true ↔
      ∃ rest, hostname = otherKey ++ rest ∧ ∀ c ∈ rest.head?, c = 45 ∨ c = 46 := by
  rw [reserved, plain]
  simp only [Bool.not_false, Bool.true_and, Bool.or_eq_true, decide_eq_true_eq,
    List.isPrefixOf_iff_prefix]
  constructor
  · rintro ((rfl | ⟨rest, rfl⟩) | ⟨rest, rfl⟩)
    · exact ⟨[], rfl, nofun⟩
    · refine ⟨46 :: rest, List.append_assoc .., ?_⟩
      rintro _ ⟨⟩
      exact .inr rfl
    · refine ⟨45 :: rest, List.append_assoc .., ?_⟩
      rintro _ ⟨⟩
      exact .inl rfl
  · rintro ⟨rest, rfl, first⟩
    cases rest with
    | nil => exact .inl (.inl rfl)
    | cons c rest =>
      rcases first c rfl with rfl | rfl
      · exact .inr ⟨rest, List.append_assoc ..⟩
      · exact .inl (.inr ⟨rest, List.append_assoc ..⟩)

/-- The hostnames whose prefix is the key of the catch-all. -/
lemma hostPrefix_other (hostname : JsString) :
    hostPrefix hostname = otherKey ↔ reserved hostname = true := by
  rw [hostPrefix_eq]
  cases regex : looksLikeRegex hostname with
  | true =>
    -- a normalised pattern holds no underscore
    rw [reserved, regex]
    refine iff_of_false ?_ nofun
    intro same
    have first : (95 : UInt16) ∈ normalizeHostname hostname := by
      apply (List.takeWhile_prefix _).subset
      rw [same]
      exact List.mem_cons_self
    rcases normalizeHostname_regex regex 95 first with unit | dot
    · exact absurd unit (by decide)
    · exact absurd dot (by decide)
  | false =>
    rw [normalizeHostname_plain regex, reserved_plain regex, takeWhile_eq_iff]
    have free : ∀ c ∈ otherKey, decide (c ≠ 45 ∧ c ≠ 46) = true :=
      List.all_eq_true.mp rfl
    constructor
    · rintro ⟨_, rest, whole, stop⟩
      refine ⟨rest, whole, ?_⟩
      intro c first
      have := stop c first
      grind
    · rintro ⟨rest, whole, stop⟩
      refine ⟨free, rest, whole, ?_⟩
      intro c first
      have := stop c first
      grind

section merging
variable (m : Buckets)

/-- Whether a bucket holds one route. -/
def single (entry : JsString × List ProxyRoute) : Bool := entry.2.length = 1

lemma takeSingle_eq (s : Buckets × List ProxyRoute) (entry : JsString × List ProxyRoute) :
    takeSingle s entry =
      if single entry then (s.1.delete entry.1, s.2 ++ entry.2) else s := by
  obtain ⟨key, bucket⟩ := entry
  rcases bucket with _ | ⟨route, _ | ⟨next, bucket⟩⟩
  · rfl
  · rfl
  · rw [if_neg]
    · rfl
    · simp [single]

/-- The loop deletes the keys of the buckets with one route and keeps their routes. -/
lemma foldl_takeSingle (l : List (JsString × List ProxyRoute)) (s : Buckets × List ProxyRoute) :
    (l.foldl takeSingle s).1.entries =
        s.1.entries.filter (fun e => e.1 ∉ (l.filter single).map (·.1)) ∧
      (l.foldl takeSingle s).2 = s.2 ++ (l.filter single).flatMap (·.2) := by
  induction l generalizing s with
  | nil => simp
  | cons entry l ih =>
    rw [List.foldl_cons, (ih _).1, (ih _).2, takeSingle_eq]
    by_cases here : single entry = true
    · rw [if_pos here, List.filter_cons_of_pos here, List.map_cons, List.flatMap_cons,
        List.append_assoc]
      refine ⟨?_, rfl⟩
      rw [OrderedMap.delete, List.filter_filter]
      apply List.filter_congr
      intro e _
      rw [Bool.eq_iff_iff]
      simp [and_comm]
    · rw [if_neg here, List.filter_cons_of_neg here]
      exact ⟨rfl, rfl⟩

/-- The buckets that the loop leaves. -/
lemma remaining_entries :
    (m.entries.foldl takeSingle (m, [])).1.entries = m.entries.filter (!single ·) := by
  rw [(foldl_takeSingle m.entries (m, [])).1]
  apply List.filter_congr
  intro e member
  have key : e.1 ∈ (m.entries.filter single).map (·.1) ↔ single e = true := by
    constructor
    · intro deleted
      obtain ⟨d, single, same⟩ := List.mem_map.mp deleted
      obtain ⟨stored, one⟩ := List.mem_filter.mp single
      have equal : d = e := List.inj_on_of_nodup_map m.nodup stored member same
      exact equal ▸ one
    · intro one
      exact List.mem_map_of_mem (List.mem_filter.mpr ⟨member, one⟩)
  simp [key]

lemma mem_remaining (e : JsString × List ProxyRoute) :
    e ∈ (m.entries.foldl takeSingle (m, [])).1.entries ↔ e ∈ m.entries ∧ single e = false := by
  rw [remaining_entries, List.mem_filter, Bool.not_eq_true']

/-- The routes that the loop takes out. -/
lemma singles_eq :
    (m.entries.foldl takeSingle (m, [])).2 = (m.entries.filter single).flatMap (·.2) := by
  rw [(foldl_takeSingle m.entries (m, [])).2]
  rfl

/-- The routes of the bucket that the routes taken out replace. -/
def lost : List ProxyRoute :=
  let (remaining, singles) := m.entries.foldl takeSingle (m, [])
  if singles.length > 0 then (remaining.get otherKey).getD [] else []

lemma remaining_contents : (m.entries.foldl takeSingle (m, [])).1.contents ++
    (m.entries.foldl takeSingle (m, [])).2 ~ m.contents := by
  rw [OrderedMap.contents, remaining_entries, singles_eq, ← List.flatMap_append]
  apply List.Perm.flatMap_right
  exact List.perm_append_comm.trans (List.filter_append_perm single m.entries)

/-- Merging keeps every route but those that it loses. -/
lemma contents_mergeSingles : (mergeSingles m).contents ++ lost m ~ m.contents := by
  have all := remaining_contents m
  rw [mergeSingles, lost]
  dsimp only
  split
  · exact (contents_set _ _ _).trans all
  · rename_i none
    rw [List.eq_nil_of_length_eq_zero (Nat.eq_zero_of_not_pos none)] at all
    exact all

lemma mergeSingles_perm : (mergeSingles m).contents ~ m.contents ↔ lost m = [] := by
  have whole := contents_mergeSingles m
  constructor
  · intro same
    have length := same.length_eq.trans whole.length_eq.symm
    rw [List.length_append] at length
    exact List.eq_nil_of_length_eq_zero (by omega)
  · intro none
    rw [none, List.append_nil] at whole
    exact whole

lemma singles_pos : (m.entries.foldl takeSingle (m, [])).2.length > 0 ↔
    ∃ e ∈ m.entries, single e = true := by
  rw [singles_eq, gt_iff_lt, List.length_pos_iff_exists_mem]
  constructor
  · rintro ⟨route, member⟩
    obtain ⟨e, inside, _⟩ := List.mem_flatMap.mp member
    exact ⟨e, List.mem_filter.mp inside⟩
  · rintro ⟨e, member, one⟩
    obtain ⟨route, only⟩ := List.length_eq_one_iff.mp (of_decide_eq_true one)
    refine ⟨route, List.mem_flatMap.mpr ⟨e, List.mem_filter.mpr ⟨member, one⟩, ?_⟩⟩
    rw [only]
    exact List.mem_singleton_self route

/-- Routes are lost when there are buckets with one route and, beside them, a bucket under the key
of the catch-all. -/
lemma lost_ne_nil (nonempty : ∀ e ∈ m.entries, e.2 ≠ []) : lost m ≠ [] ↔
    (∃ e ∈ m.entries, single e = true) ∧
      ∃ bucket, (otherKey, bucket) ∈ m.entries ∧ single (otherKey, bucket) = false := by
  have taken := singles_pos m
  have kept (bucket : List ProxyRoute) :=
    OrderedMap.get_eq_some.trans (mem_remaining m (otherKey, bucket))
  rw [lost]
  dsimp only
  split
  · rename_i some
    refine Iff.trans ?_ (and_iff_right (taken.mp some)).symm
    cases found : (m.entries.foldl takeSingle (m, [])).1.get otherKey with
    | none =>
      refine iff_of_false (fun replaced => replaced rfl) ?_
      rintro ⟨bucket, here⟩
      rw [(kept bucket).mpr here] at found
      contradiction
    | some bucket =>
      have here := (kept bucket).mp found
      exact iff_of_true (nonempty _ here.1) ⟨bucket, here⟩
  · rename_i none
    exact iff_of_false (fun replaced => replaced rfl) fun both => none (taken.mpr both.1)

/-- After merging, a bucket is one with several routes from before or the catch-all. -/
lemma mem_mergeSingles {m : Buckets} {e : JsString × List ProxyRoute}
    (member : e ∈ (mergeSingles m).entries) :
    (e ∈ m.entries ∧ single e = false) ∨ (e.1 = otherKey ∧ e.2 ≠ []) := by
  rw [mergeSingles] at member
  dsimp only at member
  split at member
  · rename_i some
    obtain ⟨key, bucket⟩ := e
    rw [← OrderedMap.get_eq_some, OrderedMap.get_set] at member
    split at member
    · rename_i same
      rw [Option.some.injEq] at member
      exact .inr ⟨same.symm, member ▸ List.ne_nil_of_length_pos some⟩
    · exact .inl ((mem_remaining m _).mp (OrderedMap.get_eq_some.mp member))
  · exact .inl ((mem_remaining m e).mp member)

end merging

/-- Two routes whose prefix is the key of the catch-all, and a route that shares its prefix with no
other. -/
structure Collision (routes : List ProxyRoute) : Prop where
  several : 2 ≤ routes.countP fun route => reserved route.hostname
  alone : ∃ route ∈ routes,
    routes.countP (fun other => hostPrefix other.hostname = hostPrefix route.hostname) = 1

/-- A bucket holds the routes with its prefix. -/
lemma mem_buckets_prefix {routes bucket : List ProxyRoute} {key : JsString} :
    (key, bucket) ∈ (buckets (groupKey .byPrefix) routes).entries ↔
      bucket ≠ [] ∧ bucket = routes.filter fun route => hostPrefix route.hostname = key :=
  mem_buckets _

lemma alone_iff (routes : List ProxyRoute) :
    (∃ e ∈ (buckets (groupKey .byPrefix) routes).entries, single e = true) ↔
      ∃ route ∈ routes,
        routes.countP (fun other => hostPrefix other.hostname = hostPrefix route.hostname) = 1 := by
  constructor
  · rintro ⟨⟨key, bucket⟩, member, one⟩
    obtain ⟨_, whole⟩ := mem_buckets_prefix.mp member
    obtain ⟨route, only⟩ := List.length_eq_one_iff.mp (of_decide_eq_true one)
    have inside : route ∈ bucket := by
      rw [show bucket = [route] from only]
      exact List.mem_singleton_self route
    rw [whole, List.mem_filter, decide_eq_true_eq] at inside
    refine ⟨route, inside.1, ?_⟩
    rw [List.countP_eq_length_filter, inside.2, ← whole]
    exact of_decide_eq_true one
  · rintro ⟨route, member, one⟩
    rw [List.countP_eq_length_filter] at one
    refine ⟨(_, _), mem_buckets_prefix.mpr ⟨?_, rfl⟩, decide_eq_true one⟩
    exact List.ne_nil_of_length_eq_add_one one

lemma several_iff (routes : List ProxyRoute) :
    (∃ bucket, (otherKey, bucket) ∈ (buckets (groupKey .byPrefix) routes).entries ∧
      single (otherKey, bucket) = false) ↔
        2 ≤ routes.countP fun route => reserved route.hostname := by
  have count : routes.countP (fun route => reserved route.hostname) =
      (routes.filter fun route => hostPrefix route.hostname = otherKey).length := by
    rw [List.countP_eq_length_filter]
    congr 1
    apply List.filter_congr
    intro route _
    rw [Bool.eq_iff_iff, decide_eq_true_eq]
    exact (hostPrefix_other route.hostname).symm
  rw [count]
  constructor
  · rintro ⟨bucket, member, more⟩
    obtain ⟨some, rfl⟩ := mem_buckets_prefix.mp member
    have one := of_decide_eq_false more
    have none := List.length_pos_of_ne_nil some
    dsimp only at one
    omega
  · intro two
    refine ⟨_, mem_buckets_prefix.mpr ⟨?_, rfl⟩, decide_eq_false ?_⟩
    · rw [← List.length_pos_iff]
      omega
    · dsimp only
      omega

/-- Prefix mode loses routes exactly on a collision. -/
lemma lost_buckets (routes : List ProxyRoute) :
    lost (buckets (groupKey .byPrefix) routes) ≠ [] ↔ Collision routes := by
  rw [lost_ne_nil _ fun e member => ((mem_buckets _).mp member).1, alone_iff, several_iff]
  constructor
  · rintro ⟨alone, several⟩
    exact ⟨several, alone⟩
  · rintro ⟨several, alone⟩
    exact ⟨alone, several⟩

section collecting
variable (routes : List ProxyRoute) (mode : GroupingMode)

/-- The buckets hold every route once, but for a collision in prefix mode. -/
lemma contents_collect :
    (collect routes mode).contents ~ routes ↔ ¬(mode = .byPrefix ∧ Collision routes) := by
  have all := contents_buckets (groupKey mode) routes
  rw [collect]
  split
  · rename_i byPrefix
    subst byPrefix
    rw [← lost_buckets, and_iff_right rfl, not_not, ← mergeSingles_perm]
    exact ⟨fun same => same.trans all.symm, fun same => same.trans all⟩
  · rename_i other
    exact iff_of_true all fun both => other both.1

lemma collect_nonempty : ∀ e ∈ (collect routes mode).entries, e.2 ≠ [] := by
  intro e member
  have stored : ∀ e ∈ (buckets (groupKey mode) routes).entries, e.2 ≠ [] :=
    fun e member => ((mem_buckets _).mp member).1
  rw [collect] at member
  split at member
  · rcases mem_mergeSingles member with ⟨inside, _⟩ | ⟨_, some⟩
    · exact stored e inside
    · exact some
  · exact stored e member

/-- In prefix mode no bucket but the catch-all holds a single route. -/
lemma collect_several : ∀ e ∈ (collect routes .byPrefix).entries,
    e.1 ≠ otherKey → e.2.length ≠ 1 := by
  intro e member other
  rcases mem_mergeSingles member with ⟨_, more⟩ | ⟨same, _⟩
  · exact of_decide_eq_false more
  · exact absurd same other

variable (localeCompare : JsString → JsString → Int)

lemma groupRoutes_perm : groupRoutes localeCompare routes mode ~
    (collect routes mode).entries.map (toGroup localeCompare) :=
  sort_perm _ _

/-- The groups are the buckets, with their routes sorted. -/
lemma groupRoutes_origin {group : ServiceGroup}
    (member : group ∈ groupRoutes localeCompare routes mode) :
    ∃ e ∈ (collect routes mode).entries, group.key = e.1 ∧ group.routes ~ e.2 := by
  have inside := (groupRoutes_perm routes mode localeCompare).mem_iff.mp member
  obtain ⟨e, stored, rfl⟩ := List.mem_map.mp inside
  exact ⟨e, stored, rfl, sort_perm _ e.2⟩

lemma groupRoutes_keys : ((groupRoutes localeCompare routes mode).map (·.key)).Nodup := by
  have keys := (groupRoutes_perm routes mode localeCompare).map (·.key)
  rw [List.map_map] at keys
  exact keys.nodup_iff.mpr (collect routes mode).nodup

lemma groupRoutes_routes : (groupRoutes localeCompare routes mode).flatMap (·.routes) ~
    (collect routes mode).contents := by
  have groups := (groupRoutes_perm routes mode localeCompare).flatMap_right (·.routes)
  rw [List.flatMap_map] at groups
  apply groups.trans
  apply List.Perm.flatMap_left
  intro e _
  exact sort_perm _ e.2

end collecting

/-- A grouping of routes: groups with distinct keys, none of them empty, that hold every route once.
In prefix mode only the catch-all may be a single route. -/
structure Partition (routes : List ProxyRoute) (mode : GroupingMode)
    (groups : List ServiceGroup) : Prop where
  distinct : (groups.map (·.key)).Nodup
  nonempty : ∀ group ∈ groups, group.routes ≠ []
  covers : groups.flatMap (·.routes) ~ routes
  several : mode = .byPrefix → ∀ group ∈ groups, group.key ≠ otherKey → group.routes.length ≠ 1

/-- Grouping is a partition of the routes unless, in prefix mode, several of them fall under the key
of the catch-all and another has a prefix of its own. -/
theorem groupRoutes_partition (localeCompare : JsString → JsString → Int)
    (routes : List ProxyRoute) (mode : GroupingMode) :
    Partition routes mode (groupRoutes localeCompare routes mode) ↔
      ¬(mode = .byPrefix ∧ Collision routes) := by
  have kept := groupRoutes_routes routes mode localeCompare
  rw [← contents_collect]
  constructor
  · intro partition
    exact kept.symm.trans partition.covers
  · intro complete
    constructor
    case distinct => exact groupRoutes_keys routes mode localeCompare
    case nonempty =>
      intro group member empty
      obtain ⟨e, stored, _, same⟩ := groupRoutes_origin routes mode localeCompare member
      rw [empty] at same
      exact collect_nonempty routes mode e stored same.nil_eq.symm
    case covers => exact kept.trans complete
    case several =>
      rintro rfl group member other
      obtain ⟨e, stored, key, same⟩ := groupRoutes_origin routes .byPrefix localeCompare member
      rw [same.length_eq]
      exact collect_several routes e stored (key ▸ other)

/-- The order of code units. -/
def compareUnits (left right : JsString) : Int :=
  if left = right then 0 else if left < right then -1 else 1

/-- A route of the docker provider. -/
def dockerRoute (hostname : JsString) : ProxyRoute where
  hostname := hostname
  path := js "/"
  target := js "http://127.0.0.1:3000"
  stripPath := false
  source := .docker
  containerName := some (js "web")

/-- Six services, enough for the dashboard to group them. -/
def sixServices : List ProxyRoute :=
  [js "__other.lvh.me", js "__other.local", js "web-1.lvh.me", js "web-2.lvh.me", js "api.lvh.me",
    js "docs.lvh.me"].map dockerRoute

/-- The two services under the key of the catch-all are lost. -/
theorem groupRoutes_loses :
    (sixServices.map (·.hostname)).Nodup ∧
      groupRoutes compareUnits sixServices .byPrefix =
        [⟨js "web", js "web", [js "web-1.lvh.me", js "web-2.lvh.me"].map dockerRoute⟩,
          ⟨js "__other", js "other", [js "api.lvh.me", js "docs.lvh.me"].map dockerRoute⟩] ∧
      ¬Partition sixServices .byPrefix (groupRoutes compareUnits sixServices .byPrefix) := by
  have result : groupRoutes compareUnits sixServices .byPrefix =
      [⟨js "web", js "web", [js "web-1.lvh.me", js "web-2.lvh.me"].map dockerRoute⟩,
        ⟨js "__other", js "other", [js "api.lvh.me", js "docs.lvh.me"].map dockerRoute⟩] := by
    decide
  refine ⟨by decide, result, ?_⟩
  intro partition
  have length := partition.covers.length_eq
  rw [result] at length
  exact absurd length (by decide)

end Pintle.Grouping
