import Mathlib.Algebra.Order.Field.Basic
import Mathlib.Data.List.Infix
import Mathlib.Tactic.Linarith
import Pintle.Ui.FlowLayout

/-!
# What the diagram shows

Whatever the topology, the statistics and the toolbar are, the flow diagram is one that can be drawn:
its identifiers are distinct, every edge runs between two nodes, no two nodes overlap, every service
or group is reached by one edge, and the first route of every hostname is shown once where it passes
the filter, by a node of its own or in the count of a group that is folded (`useFlowLayout_sound`).
Two things are lost: the routes that a `Collision` of prefixes drops are not shown, and of edges with
distinct identifiers nothing is said for patterns grouped by domain, where they may run into one
another.

Each step of the layout adds nodes together with the edges that lead to them, so the layout is a list
of such pairs (`groupsItems`).
-/

namespace Pintle.Grouping
open Ui Lib Stats
open scoped List

/-- Add nodes with the edges that lead to them. -/
def Drawing.append (d : Drawing) (items : List (Node × Edge)) : Drawing where
  nodes := d.nodes ++ items.map (·.1)
  edges := d.edges ++ items.map (·.2)

lemma Drawing.append_append (d : Drawing) (items more : List (Node × Edge)) :
    (d.append items).append more = d.append (items ++ more) := by
  simp [append]

lemma Drawing.append_nil (d : Drawing) : d.append [] = d := by
  simp [append]

lemma Drawing.foldl_append {α : Type} (item : α → Node × Edge) (l : List α) (d : Drawing) :
    l.foldl (fun d a => d.append [item a]) d = d.append (l.map item) := by
  induction l generalizing d with
  | nil => exact d.append_nil.symm
  | cons a l ih =>
    rw [List.foldl_cons, ih, append_append]
    rfl

section items
variable (stats : Option ProxyStats) (scale : ℚ)

/-- The node of a service with its edge. -/
def serviceItem (route : ProxyRoute) (x y : ℚ) (sourceNodeId : JsString) (dimmed : Bool) :
    Node × Edge :=
  let eStat := stats.bind (·.edgeStats (route.hostname ++ js "->" ++ route.target))
  ({ id := serviceId route.hostname
     position := ⟨x, y⟩
     data := .service route.hostname route.target route.source route.containerName
       (hostStat stats route.hostname)
     dimmed },
    { id := js "e-" ++ sourceNodeId ++ js "-" ++ route.hostname
      source := sourceNodeId
      target := serviceId route.hostname
      label := edgeLabel eStat
      style := edgeStyle eStat
      dimmed })

lemma pushServiceNode_eq (d : Drawing) (route : ProxyRoute) (x y : ℚ) (sourceNodeId : JsString)
    (dimmed : Bool) : pushServiceNode stats d route x y sourceNodeId dimmed =
      d.append [serviceItem stats route x y sourceNodeId dimmed] := rfl

variable (dimmedFor : ProxyRoute → Bool)

/-- Services below one another. -/
def serviceItems (routes : List ProxyRoute) (x y : ℚ) (sourceNodeId : JsString) :
    List (Node × Edge) :=
  routes.zipIdx.map fun (route, idx) =>
    serviceItem stats route x (y + idx * (baseRowHeight * scale)) sourceNodeId (dimmedFor route)

lemma pushServices_eq (d : Drawing) (routes : List ProxyRoute) (x y : ℚ) (sourceNodeId : JsString) :
    pushServices stats scale d routes x y sourceNodeId dimmedFor =
      d.append (serviceItems stats scale dimmedFor routes x y sourceNodeId) :=
  Drawing.foldl_append (fun entry : ProxyRoute × Nat => serviceItem stats entry.1 x
    (y + entry.2 * (baseRowHeight * scale)) sourceNodeId (dimmedFor entry.1)) routes.zipIdx d

variable (expandedGroups : JsString → Bool) (groupDimmed : ServiceGroup → Bool)

/-- The node of a group with its edge. -/
def groupItem (group : ServiceGroup) (y : ℚ) : Node × Edge :=
  let agg := aggregateStats (group.routes.map (·.hostname)) (stats.map (·.hostStats))
  ({ id := groupId group.key
     position := ⟨baseCol .services * scale, y⟩
     data := .serviceGroup group.label group.routes.length agg (expandedGroups group.key)
     dimmed := groupDimmed group },
    { id := js "e-bun-" ++ groupId group.key
      source := js "bun-https"
      target := groupId group.key
      label := edgeLabel agg
      style := edgeStyle agg
      dimmed := groupDimmed group })

/-- What is drawn for a group at a height. -/
def groupItems (group : ServiceGroup) (y : ℚ) : List (Node × Edge) :=
  match group.routes with
  | [route] =>
    [serviceItem stats route (baseCol .services * scale) y (js "bun-https") (dimmedFor route)]
  | routes =>
    groupItem stats scale expandedGroups groupDimmed group y ::
      if expandedGroups group.key then
        serviceItems stats scale dimmedFor routes (baseCol .members * scale) y (groupId group.key)
      else []

/-- The height that a group takes. -/
def groupHeight (group : ServiceGroup) : ℚ :=
  if group.routes.length ≠ 1 ∧ expandedGroups group.key then
    group.routes.length * (baseRowHeight * scale)
  else baseRowHeight * scale

lemma pushGroup_eq (d : Drawing) (y : ℚ) (group : ServiceGroup) :
    pushGroup stats scale expandedGroups dimmedFor groupDimmed (d, y) group =
      (d.append (groupItems stats scale dimmedFor expandedGroups groupDimmed group y),
        y + groupHeight scale expandedGroups group) := by
  unfold pushGroup groupItems groupHeight
  rcases routes : group.routes with _ | ⟨route, _ | ⟨next, rest⟩⟩
  · cases expanded : expandedGroups group.key with
    | true => simp [pushServices_eq, groupItem, Drawing.append, routes, expanded]
    | false => simp [groupItem, Drawing.append, routes, expanded]
  · simp [pushServiceNode_eq]
  · cases expanded : expandedGroups group.key with
    | true => simp [pushServices_eq, groupItem, Drawing.append, routes, expanded]
    | false => simp [groupItem, Drawing.append, routes, expanded]

/-- What is drawn for groups below one another. -/
def groupsItems : List ServiceGroup → ℚ → List (Node × Edge)
  | [], _ => []
  | group :: groups, y =>
    groupItems stats scale dimmedFor expandedGroups groupDimmed group y ++
      groupsItems groups (y + groupHeight scale expandedGroups group)

lemma foldl_pushGroup (groups : List ServiceGroup) (d : Drawing) (y : ℚ) :
    (groups.foldl (pushGroup stats scale expandedGroups dimmedFor groupDimmed) (d, y)).1 =
      d.append (groupsItems stats scale dimmedFor expandedGroups groupDimmed groups y) := by
  induction groups generalizing d y with
  | nil => exact d.append_nil.symm
  | cons group groups ih =>
    rw [List.foldl_cons, pushGroup_eq, ih, Drawing.append_append, groupsItems]

/-- The three ways to draw a group. -/
inductive Shape (group : ServiceGroup) (y : ℚ) : List (Node × Edge) → ℚ → Prop where
  | alone {route} :
    group.routes = [route] →
    Shape group y
      [serviceItem stats route (baseCol .services * scale) y (js "bun-https") (dimmedFor route)]
      (baseRowHeight * scale)
  | folded :
    group.routes.length ≠ 1 →
    expandedGroups group.key = false →
    Shape group y [groupItem stats scale expandedGroups groupDimmed group y] (baseRowHeight * scale)
  | expanded :
    group.routes.length ≠ 1 →
    expandedGroups group.key = true →
    Shape group y
      (groupItem stats scale expandedGroups groupDimmed group y ::
        serviceItems stats scale dimmedFor group.routes (baseCol .members * scale) y (groupId group.key))
      (group.routes.length * (baseRowHeight * scale))

/-- A group is drawn in one of them. -/
lemma groupItems_shape (group : ServiceGroup) (y : ℚ) :
    Shape stats scale dimmedFor expandedGroups groupDimmed group y
      (groupItems stats scale dimmedFor expandedGroups groupDimmed group y)
      (groupHeight scale expandedGroups group) := by
  have several (more : group.routes.length ≠ 1) :
      groupItems stats scale dimmedFor expandedGroups groupDimmed group y =
        groupItem stats scale expandedGroups groupDimmed group y ::
          if expandedGroups group.key then
            serviceItems stats scale dimmedFor group.routes (baseCol .members * scale) y (groupId group.key)
          else [] := by
    unfold groupItems
    rcases routes : group.routes with _ | ⟨route, _ | ⟨next, rest⟩⟩
    · rfl
    · rw [routes] at more
      exact absurd rfl more
    · rfl
  by_cases one : group.routes.length = 1
  · obtain ⟨route, only⟩ := List.length_eq_one_iff.mp one
    have items : groupItems stats scale dimmedFor expandedGroups groupDimmed group y =
        [serviceItem stats route (baseCol .services * scale) y (js "bun-https") (dimmedFor route)] := by
      unfold groupItems
      rw [only]
    rw [items, groupHeight, if_neg fun both => both.1 one]
    exact .alone only
  · rw [several one, groupHeight]
    cases expanded : expandedGroups group.key with
    | false =>
      rw [if_neg Bool.false_ne_true, if_neg fun both => Bool.false_ne_true both.2]
      exact .folded one expanded
    | true =>
      rw [if_pos rfl, if_pos ⟨one, rfl⟩]
      exact .expanded one expanded

end items

lemma serviceId_inj {hostname hostname' : JsString} :
    serviceId hostname = serviceId hostname' ↔ hostname = hostname' :=
  List.append_right_inj _

lemma groupId_inj {key key' : JsString} : groupId key = groupId key' ↔ key = key' :=
  List.append_right_inj _

lemma serviceId_ne_groupId (hostname key : JsString) : serviceId hostname ≠ groupId key := by
  intro same
  have first := (List.cons.inj same).1
  exact absurd first (by decide)

section identifiers
variable (stats : Option ProxyStats) (scale : ℚ) (dimmedFor : ProxyRoute → Bool)
  (expandedGroups : JsString → Bool) (groupDimmed : ServiceGroup → Bool)

lemma serviceItems_ids (routes : List ProxyRoute) (x y : ℚ) (sourceNodeId : JsString) :
    (serviceItems stats scale dimmedFor routes x y sourceNodeId).map (·.1.id) =
      routes.map fun route => serviceId route.hostname := by
  have firsts := congrArg (List.map fun route => serviceId route.hostname)
    (List.zipIdx_map_fst 0 routes)
  rw [List.map_map] at firsts
  rw [serviceItems, List.map_map]
  exact firsts

/-- The identifiers that may be drawn for some groups. -/
def Belongs (groups : List ServiceGroup) (id : JsString) : Prop :=
  (∃ group ∈ groups, id = groupId group.key) ∨
    ∃ route ∈ groups.flatMap (·.routes), id = serviceId route.hostname

lemma Shape.belongs {group : ServiceGroup} {y height : ℚ} {items : List (Node × Edge)}
    (shape : Shape stats scale dimmedFor expandedGroups groupDimmed group y items height) :
    ∀ id ∈ items.map (·.1.id), Belongs [group] id := by
  intro id member
  cases shape with
  | @alone route only =>
    refine .inr ⟨route, ?_, List.mem_singleton.mp member⟩
    rw [List.flatMap_singleton, only]
    exact List.mem_singleton_self route
  | folded => exact .inl ⟨group, List.mem_singleton_self group, List.mem_singleton.mp member⟩
  | expanded =>
    rw [List.map_cons, serviceItems_ids] at member
    rcases List.mem_cons.mp member with rfl | inside
    · exact .inl ⟨group, List.mem_singleton_self group, rfl⟩
    · obtain ⟨route, listed, rfl⟩ := List.mem_map.mp inside
      exact .inr ⟨route, by simpa using listed, rfl⟩

lemma Shape.ids {group : ServiceGroup} {y height : ℚ} {items : List (Node × Edge)}
    (shape : Shape stats scale dimmedFor expandedGroups groupDimmed group y items height)
    (hostnames : (group.routes.map (·.hostname)).Nodup) : (items.map (·.1.id)).Nodup := by
  cases shape with
  | alone => exact List.nodup_singleton _
  | folded => exact List.nodup_singleton _
  | expanded =>
    rw [List.map_cons, serviceItems_ids, List.nodup_cons]
    constructor
    · intro member
      obtain ⟨route, _, same⟩ := List.mem_map.mp member
      exact serviceId_ne_groupId _ _ same
    · have services := hostnames.map (f := serviceId) fun _ _ => serviceId_inj.mp
      rwa [List.map_map] at services

lemma groupsItems_belongs (groups : List ServiceGroup) (y : ℚ) :
    ∀ id ∈ (groupsItems stats scale dimmedFor expandedGroups groupDimmed groups y).map (·.1.id),
      Belongs groups id := by
  induction groups generalizing y with
  | nil => exact List.forall_mem_nil _
  | cons group groups ih =>
    intro id member
    rw [groupsItems, List.map_append] at member
    rcases List.mem_append.mp member with here | later
    · have shape := groupItems_shape stats scale dimmedFor expandedGroups groupDimmed group y
      rcases shape.belongs _ _ _ _ _ id here with ⟨g, one, same⟩ | ⟨route, inside, same⟩
      · exact .inl ⟨g, List.mem_cons.mpr (.inl (List.mem_singleton.mp one)), same⟩
      · rw [List.flatMap_singleton] at inside
        refine .inr ⟨route, ?_, same⟩
        rw [List.flatMap_cons]
        exact List.mem_append_left _ inside
    · rcases ih _ id later with ⟨g, one, same⟩ | ⟨route, inside, same⟩
      · exact .inl ⟨g, List.mem_cons_of_mem _ one, same⟩
      · refine .inr ⟨route, ?_, same⟩
        rw [List.flatMap_cons]
        exact List.mem_append_right _ inside

/-- Groups with distinct keys and hostnames give distinct identifiers. -/
lemma groupsItems_ids {groups : List ServiceGroup} (y : ℚ) (keys : (groups.map (·.key)).Nodup)
    (hostnames : ((groups.flatMap (·.routes)).map (·.hostname)).Nodup) :
    ((groupsItems stats scale dimmedFor expandedGroups groupDimmed groups y).map (·.1.id)).Nodup := by
  induction groups generalizing y with
  | nil => exact List.nodup_nil
  | cons group groups ih =>
    have shape := groupItems_shape stats scale dimmedFor expandedGroups groupDimmed group y
    obtain ⟨fresh, keys⟩ := List.nodup_cons.mp keys
    rw [List.flatMap_cons, List.map_append, List.nodup_append'] at hostnames
    obtain ⟨own, others, apart⟩ := hostnames
    rw [groupsItems, List.map_append]
    refine (shape.ids _ _ _ _ _ own).append (ih _ keys others) ?_
    intro id here later
    rcases shape.belongs _ _ _ _ _ id here with ⟨g, one, same⟩ | ⟨route, inside, same⟩
    · rw [List.mem_singleton.mp one] at same
      rcases groupsItems_belongs _ _ _ _ _ _ _ id later with ⟨g', member, same'⟩ | ⟨route', _, same'⟩
      · have key := groupId_inj.mp (same.symm.trans same')
        exact fresh (List.mem_map.mpr ⟨g', member, key.symm⟩)
      · exact serviceId_ne_groupId _ _ (same'.symm.trans same)
    · rw [List.flatMap_singleton] at inside
      rcases groupsItems_belongs _ _ _ _ _ _ _ id later with ⟨g', _, same'⟩ | ⟨route', member, same'⟩
      · exact serviceId_ne_groupId _ _ (same.symm.trans same')
      · have hostname := serviceId_inj.mp (same.symm.trans same')
        exact apart (List.mem_map_of_mem inside) (List.mem_map.mpr ⟨route', member, hostname.symm⟩)

/-- An edge that leads to its node, from the HTTPS server or from a node that is drawn with it. -/
def Leads (items : List (Node × Edge)) (item : Node × Edge) : Prop :=
  item.2.target = item.1.id ∧
    (item.2.source = js "bun-https" ∨ item.2.source ∈ items.map (·.1.id))

lemma Leads.mono {items more : List (Node × Edge)} {item : Node × Edge} (leads : Leads items item)
    (subset : items ⊆ more) : Leads more item :=
  ⟨leads.1, leads.2.imp_right fun source => List.map_subset _ subset source⟩

lemma Shape.leads {group : ServiceGroup} {y height : ℚ} {items : List (Node × Edge)}
    (shape : Shape stats scale dimmedFor expandedGroups groupDimmed group y items height) :
    ∀ item ∈ items, Leads items item := by
  intro item member
  cases shape with
  | alone =>
    cases List.mem_singleton.mp member
    exact ⟨rfl, .inl rfl⟩
  | folded =>
    cases List.mem_singleton.mp member
    exact ⟨rfl, .inl rfl⟩
  | expanded =>
    rcases List.mem_cons.mp member with rfl | inside
    · exact ⟨rfl, .inl rfl⟩
    · obtain ⟨⟨route, idx⟩, _, rfl⟩ := List.mem_map.mp inside
      exact ⟨rfl, .inr List.mem_cons_self⟩

lemma groupsItems_leads (groups : List ServiceGroup) (y : ℚ) :
    ∀ item ∈ groupsItems stats scale dimmedFor expandedGroups groupDimmed groups y,
      Leads (groupsItems stats scale dimmedFor expandedGroups groupDimmed groups y) item := by
  induction groups generalizing y with
  | nil => exact List.forall_mem_nil _
  | cons group groups ih =>
    rw [groupsItems]
    intro item member
    rcases List.mem_append.mp member with here | later
    · have shape := groupItems_shape stats scale dimmedFor expandedGroups groupDimmed group y
      exact (shape.leads _ _ _ _ _ item here).mono (List.subset_append_left _ _)
    · exact (ih _ item later).mono (List.subset_append_right _ _)

end identifiers

section positions
variable (stats : Option ProxyStats) (dimmedFor : ProxyRoute → Bool)
  (expandedGroups : JsString → Bool) (groupDimmed : ServiceGroup → Bool)

/-- Nodes in the same column are a row apart. -/
def Apart (rowHeight : ℚ) (a b : Node) : Prop :=
  a.position.x = b.position.x → rowHeight ≤ |a.position.y - b.position.y|

/-- A node in the columns of services, between two heights. -/
structure Between (scale : ℚ) (top bottom : ℚ) (node : Node) : Prop where
  column : node.position.x = baseCol .services * scale ∨ node.position.x = baseCol .members * scale
  top : top ≤ node.position.y
  bottom : node.position.y + baseRowHeight * scale ≤ bottom

lemma Between.widen {scale top top' bottom bottom' : ℚ} {node : Node}
    (between : Between scale top bottom node) (higher : top' ≤ top) (lower : bottom ≤ bottom') :
    Between scale top' bottom' node :=
  ⟨between.column, higher.trans between.top, between.bottom.trans lower⟩

/-- What is drawn below a height is a row apart from what is drawn above it. -/
lemma Between.apart {scale top middle bottom : ℚ} {a b : Node} (above : Between scale top middle a)
    (below : Between scale middle bottom b) : Apart (baseRowHeight * scale) a b := by
  intro _
  have := above.bottom
  have := below.top
  rw [abs_sub_comm]
  exact le_trans (by linarith) (le_abs_self _)

variable {scale : ℚ} (positive : 0 < scale)
include positive

/-- Services below one another are a row apart and take a row each. -/
lemma serviceItems_placed (routes : List ProxyRoute) (column : Column)
    (services : column = .services ∨ column = .members) (y : ℚ) (sourceNodeId : JsString) :
    (∀ item ∈ serviceItems stats scale dimmedFor routes (baseCol column * scale) y sourceNodeId,
      Between scale y (y + routes.length * (baseRowHeight * scale)) item.1) ∧
    (serviceItems stats scale dimmedFor routes (baseCol column * scale) y sourceNodeId).Pairwise
      fun a b => Apart (baseRowHeight * scale) a.1 b.1 := by
  have row : 0 < baseRowHeight * scale := mul_pos (by norm_num [baseRowHeight]) positive
  constructor
  · intro item member
    obtain ⟨⟨route, idx⟩, listed, rfl⟩ := List.mem_map.mp member
    have below : idx < routes.length := (List.mem_zipIdx' listed).1
    have step : ((idx : ℚ) + 1) ≤ routes.length := by exact_mod_cast below
    refine ⟨?_, ?_, ?_⟩
    · rcases services with rfl | rfl
      · exact .inl rfl
      · exact .inr rfl
    · have := mul_nonneg (Nat.cast_nonneg (α := ℚ) idx) row.le
      change y ≤ y + idx * (baseRowHeight * scale)
      linarith
    · have := mul_le_mul_of_nonneg_right step row.le
      change y + idx * (baseRowHeight * scale) + baseRowHeight * scale ≤ _
      linarith
  · rw [List.pairwise_iff_getElem]
    intro i j _ _ before _
    have step : (i : ℚ) + 1 ≤ j := by exact_mod_cast before
    have := mul_le_mul_of_nonneg_right step row.le
    simp only [serviceItems, List.getElem_map, List.getElem_zipIdx, serviceItem, Nat.zero_add]
    rw [abs_sub_comm]
    exact le_trans (by linarith) (le_abs_self _)

/-- A group is drawn within its height, its nodes a row apart. -/
lemma Shape.placed {group : ServiceGroup} {y height : ℚ} {items : List (Node × Edge)}
    (shape : Shape stats scale dimmedFor expandedGroups groupDimmed group y items height)
    (nonempty : group.routes ≠ []) :
    (∀ item ∈ items, Between scale y (y + height) item.1) ∧
      items.Pairwise fun a b => Apart (baseRowHeight * scale) a.1 b.1 := by
  have row : 0 < baseRowHeight * scale := mul_pos (by norm_num [baseRowHeight]) positive
  cases shape with
  | alone =>
    refine ⟨?_, List.pairwise_singleton _ _⟩
    intro item member
    cases List.mem_singleton.mp member
    exact ⟨.inl rfl, le_rfl, le_rfl⟩
  | folded =>
    refine ⟨?_, List.pairwise_singleton _ _⟩
    intro item member
    cases List.mem_singleton.mp member
    exact ⟨.inl rfl, le_rfl, le_rfl⟩
  | expanded =>
    obtain ⟨placed, apart⟩ := serviceItems_placed stats dimmedFor positive group.routes .members (.inr rfl) y
      (groupId group.key)
    constructor
    · intro item member
      rcases List.mem_cons.mp member with rfl | inside
      · refine ⟨.inl rfl, le_rfl, ?_⟩
        have one : (1 : ℚ) ≤ group.routes.length := by
          exact_mod_cast List.length_pos_of_ne_nil nonempty
        have := mul_le_mul_of_nonneg_right one row.le
        change y + baseRowHeight * scale ≤ _
        linarith
      · exact placed item inside
    · refine List.pairwise_cons.mpr ⟨?_, apart⟩
      -- the members stand in the next column
      rintro item member same
      obtain ⟨⟨route, idx⟩, _, rfl⟩ := List.mem_map.mp member
      have columns : baseCol .services * scale = baseCol .members * scale := same
      have := mul_right_cancel₀ positive.ne' columns
      norm_num [baseCol] at this

/-- Groups below one another do not overlap. -/
lemma groupsItems_placed {groups : List ServiceGroup} (nonempty : ∀ group ∈ groups, group.routes ≠ [])
    (y : ℚ) :
    (∀ item ∈ groupsItems stats scale dimmedFor expandedGroups groupDimmed groups y,
      ∃ bottom, Between scale y bottom item.1) ∧
    (groupsItems stats scale dimmedFor expandedGroups groupDimmed groups y).Pairwise
      fun a b => Apart (baseRowHeight * scale) a.1 b.1 := by
  induction groups generalizing y with
  | nil => exact ⟨List.forall_mem_nil _, .nil⟩
  | cons group groups ih =>
    obtain ⟨some, rest⟩ := List.forall_mem_cons.mp nonempty
    have shape := groupItems_shape stats scale dimmedFor expandedGroups groupDimmed group y
    obtain ⟨placed, apart⟩ := shape.placed stats dimmedFor expandedGroups groupDimmed positive some
    obtain ⟨below, apart'⟩ := ih rest (y + groupHeight scale expandedGroups group)
    have height : 0 ≤ groupHeight scale expandedGroups group := by
      unfold groupHeight baseRowHeight
      split
      · positivity
      · positivity
    rw [groupsItems]
    constructor
    · intro item member
      rcases List.mem_append.mp member with here | later
      · exact ⟨_, placed item here⟩
      · obtain ⟨bottom, between⟩ := below item later
        exact ⟨bottom, between.widen (by linarith) le_rfl⟩
    · refine List.pairwise_append.mpr ⟨apart, apart', ?_⟩
      intro a here b later
      obtain ⟨bottom, between⟩ := below b later
      exact (placed a here).apart between

end positions

/-- How many routes a node stands for: the one of a service, those of a group that is folded. -/
def Node.count (node : Node) : Nat :=
  match node.data with
  | .service .. => 1
  | .serviceGroup _ count _ expanded => if expanded then 0 else count
  | _ => 0

/-- The node of a route. -/
structure Node.Serves (stats : Option ProxyStats) (node : Node) (route : ProxyRoute) : Prop where
  id : node.id = serviceId route.hostname
  data : node.data = .service route.hostname route.target route.source route.containerName
    (hostStat stats route.hostname)

/-- The node of a group that is folded. -/
structure Node.Folds (stats : Option ProxyStats) (node : Node) (group : ServiceGroup) : Prop where
  id : node.id = groupId group.key
  data : node.data = .serviceGroup group.label group.routes.length
    (aggregateStats (group.routes.map (·.hostname)) (stats.map (·.hostStats))) false

section coverage
variable (stats : Option ProxyStats) (scale : ℚ) (dimmedFor : ProxyRoute → Bool)
  (expandedGroups : JsString → Bool) (groupDimmed : ServiceGroup → Bool)

lemma serviceItems_serves {routes : List ProxyRoute} {route : ProxyRoute} (member : route ∈ routes)
    (x y : ℚ) (sourceNodeId : JsString) :
    ∃ item ∈ serviceItems stats scale dimmedFor routes x y sourceNodeId,
      item.1.Serves stats route := by
  obtain ⟨idx, inside, rfl⟩ := List.getElem_of_mem member
  have listed : (routes[idx], idx) ∈ routes.zipIdx :=
    List.mem_zipIdx_iff_getElem?.mpr (List.getElem?_eq_getElem inside)
  exact ⟨_, List.mem_map_of_mem listed, rfl, rfl⟩

lemma serviceItems_count (routes : List ProxyRoute) (x y : ℚ) (sourceNodeId : JsString) :
    ((serviceItems stats scale dimmedFor routes x y sourceNodeId).map (·.1.count)).sum =
      routes.length := by
  have ones : (serviceItems stats scale dimmedFor routes x y sourceNodeId).map (·.1.count) =
      routes.zipIdx.map fun _ => 1 := by
    rw [serviceItems, List.map_map]
    rfl
  rw [ones]
  simp

lemma Shape.count {group : ServiceGroup} {y height : ℚ} {items : List (Node × Edge)}
    (shape : Shape stats scale dimmedFor expandedGroups groupDimmed group y items height) :
    (items.map (·.1.count)).sum = group.routes.length := by
  cases shape with
  | alone only =>
    rw [only]
    rfl
  | folded _ folded => simp [groupItem, Node.count, folded]
  | expanded _ expanded =>
    rw [List.map_cons, List.sum_cons, serviceItems_count]
    simp [groupItem, Node.count, expanded]

lemma groupsItems_count (groups : List ServiceGroup) (y : ℚ) :
    ((groupsItems stats scale dimmedFor expandedGroups groupDimmed groups y).map
      (·.1.count)).sum = (groups.flatMap (·.routes)).length := by
  induction groups generalizing y with
  | nil => rfl
  | cons group groups ih =>
    have shape := groupItems_shape stats scale dimmedFor expandedGroups groupDimmed group y
    rw [groupsItems, List.map_append, List.sum_append, shape.count, ih, List.flatMap_cons,
      List.length_append]

lemma Shape.shows {group : ServiceGroup} {y height : ℚ} {items : List (Node × Edge)}
    (shape : Shape stats scale dimmedFor expandedGroups groupDimmed group y items height)
    {route : ProxyRoute} (member : route ∈ group.routes) :
    ∃ item ∈ items, item.1.Serves stats route ∨ item.1.Folds stats group := by
  cases shape with
  | alone only =>
    rw [only] at member
    cases List.mem_singleton.mp member
    exact ⟨_, List.mem_singleton_self _, .inl ⟨rfl, rfl⟩⟩
  | folded _ folded =>
    refine ⟨_, List.mem_singleton_self _, .inr ⟨rfl, ?_⟩⟩
    rw [groupItem, folded]
  | expanded =>
    obtain ⟨item, inside, serves⟩ := serviceItems_serves stats scale dimmedFor member
      (baseCol .members * scale) y (groupId group.key)
    exact ⟨item, List.mem_cons_of_mem _ inside, .inl serves⟩

/-- Every route of a group has its node, or the group is folded into one. -/
lemma groupsItems_shows {groups : List ServiceGroup} {group : ServiceGroup} {route : ProxyRoute}
    (listed : group ∈ groups) (member : route ∈ group.routes) (y : ℚ) :
    ∃ item ∈ groupsItems stats scale dimmedFor expandedGroups groupDimmed groups y,
      item.1.Serves stats route ∨ item.1.Folds stats group := by
  induction groups generalizing y with
  | nil => cases listed
  | cons first groups ih =>
    rw [groupsItems]
    cases List.mem_cons.mp listed with
    | inl here =>
      subst here
      have shape := groupItems_shape stats scale dimmedFor expandedGroups groupDimmed group y
      obtain ⟨item, inside, shown⟩ := shape.shows _ _ _ _ _ member
      exact ⟨item, List.mem_append_left _ inside, shown⟩
    | inr later =>
      obtain ⟨item, inside, shown⟩ := ih later _
      exact ⟨item, List.mem_append_right _ inside, shown⟩

end coverage

section names
variable (stats : Option ProxyStats) (scale : ℚ) (dimmedFor : ProxyRoute → Bool)
  (expandedGroups : JsString → Bool) (groupDimmed : ServiceGroup → Bool)

/-- How the edge of a node is named. -/
inductive Named (groups : List ServiceGroup) : JsString → JsString → Prop where
  | alone {route : ProxyRoute} :
    Named groups (serviceId route.hostname) (js "e-bun-https-" ++ route.hostname)
  | group {group : ServiceGroup} :
    Named groups (groupId group.key) (js "e-bun-grp-" ++ group.key)
  | member {group : ServiceGroup} {route : ProxyRoute} :
    group ∈ groups →
    route ∈ group.routes →
    Named groups (serviceId route.hostname)
      (js "e-grp-" ++ (group.key ++ js "-" ++ route.hostname))

/-- The keys and hostnames under which the members of groups are named tell them apart. -/
def Separate (groups : List ServiceGroup) : Prop :=
  ∀ group ∈ groups, ∀ route ∈ group.routes, ∀ group' ∈ groups, ∀ route' ∈ group'.routes,
    group.key ++ js "-" ++ route.hostname = group'.key ++ js "-" ++ route'.hostname →
      route.hostname = route'.hostname

lemma serviceItems_named {groups : List ServiceGroup} {group : ServiceGroup} (listed : group ∈ groups)
    (x y : ℚ) : ∀ item ∈ serviceItems stats scale dimmedFor group.routes x y (groupId group.key),
      Named groups item.1.id item.2.id := by
  intro item member
  obtain ⟨⟨route, idx⟩, inside, rfl⟩ := List.mem_map.mp member
  have here := (List.mem_zipIdx' inside).2
  have named : Named groups (serviceId route.hostname)
      (js "e-grp-" ++ (group.key ++ js "-" ++ route.hostname)) :=
    .member listed (here ▸ List.getElem_mem _)
  have name : js "e-" ++ groupId group.key ++ js "-" ++ route.hostname =
      js "e-grp-" ++ (group.key ++ js "-" ++ route.hostname) := by
    rw [groupId, List.append_assoc, List.append_assoc, List.append_assoc, List.append_assoc]
    rfl
  rw [← name] at named
  exact named

lemma Shape.named {groups : List ServiceGroup} {group : ServiceGroup} {y height : ℚ}
    {items : List (Node × Edge)}
    (shape : Shape stats scale dimmedFor expandedGroups groupDimmed group y items height)
    (listed : group ∈ groups) : ∀ item ∈ items, Named groups item.1.id item.2.id := by
  intro item member
  cases shape with
  | @alone route only =>
    cases List.mem_singleton.mp member
    have named : Named groups (serviceId route.hostname) (js "e-bun-https-" ++ route.hostname) :=
      .alone
    exact named
  | folded =>
    cases List.mem_singleton.mp member
    have named : Named groups (groupId group.key) (js "e-bun-grp-" ++ group.key) := .group
    exact named
  | expanded =>
    rcases List.mem_cons.mp member with rfl | inside
    · have named : Named groups (groupId group.key) (js "e-bun-grp-" ++ group.key) := .group
      exact named
    · exact serviceItems_named _ _ _ listed _ _ item inside

lemma groupsItems_named {all groups : List ServiceGroup} (listed : groups ⊆ all) (y : ℚ) :
    ∀ item ∈ groupsItems stats scale dimmedFor expandedGroups groupDimmed groups y,
      Named all item.1.id item.2.id := by
  induction groups generalizing y with
  | nil => exact List.forall_mem_nil _
  | cons group groups ih =>
    obtain ⟨first, rest⟩ := List.cons_subset.mp listed
    rw [groupsItems]
    intro item member
    rcases List.mem_append.mp member with here | later
    · have shape := groupItems_shape stats scale dimmedFor expandedGroups groupDimmed group y
      exact shape.named _ _ _ _ _ first item here
    · exact ih rest _ item later

/-- Names that begin differently are different. -/
lemma append_ne_append {a b s t : JsString} (n : Nat) (inside : n ≤ a.length ∧ n ≤ b.length)
    (differ : a.take n ≠ b.take n) : a ++ s ≠ b ++ t := by
  intro same
  have heads := congrArg (List.take n) same
  rw [List.take_append_of_le_length inside.1, List.take_append_of_le_length inside.2] at heads
  exact differ heads

/-- An edge has the name of one node only. -/
lemma Named.inj {groups : List ServiceGroup} (separate : Separate groups) {id id' name : JsString}
    (named : Named groups id name) (named' : Named groups id' name) : id = id' := by
  cases named with
  | alone =>
    generalize written : js "e-bun-https-" ++ _ = name at named'
    cases named' with
    | alone => rw [List.append_cancel_left written]
    | group => exact absurd written (append_ne_append 7 (by decide) (by decide))
    | member => exact absurd written (append_ne_append 3 (by decide) (by decide))
  | group =>
    generalize written : js "e-bun-grp-" ++ _ = name at named'
    cases named' with
    | alone => exact absurd written (append_ne_append 7 (by decide) (by decide))
    | group => rw [List.append_cancel_left written]
    | member => exact absurd written (append_ne_append 3 (by decide) (by decide))
  | member listed member =>
    generalize written : js "e-grp-" ++ _ = name at named'
    cases named' with
    | alone => exact absurd written (append_ne_append 3 (by decide) (by decide))
    | group => exact absurd written (append_ne_append 3 (by decide) (by decide))
    | member listed' member' =>
      rw [separate _ listed _ member _ listed' _ member' (List.append_cancel_left written)]

end names

/-- The last two of some labels, joined. -/
def lastLabels (parts : List JsString) : JsString :=
  if parts.length ≤ 2 then join parts 46 else join (parts.drop (parts.length - 2)) 46

lemma baseDomain_plain {hostname : JsString} (plain : looksLikeRegex hostname = false) :
    baseDomain hostname = lastLabels (split hostname 46) := by
  rw [baseDomain, normalizeHostname_plain plain]
  rfl

/-- A label in front of two others is not among the last two. -/
lemma lastLabels_cons (label : JsString) (parts : List JsString) (two : 2 ≤ parts.length) :
    lastLabels (label :: parts) = lastLabels parts := by
  have more : ¬ (label :: parts).length ≤ 2 := by
    rw [List.length_cons]
    omega
  have before : (label :: parts).length - 2 = (parts.length - 2) + 1 := by
    rw [List.length_cons]
    omega
  rw [lastLabels, if_neg more, before, List.drop_succ_cons, lastLabels]
  split
  · rename_i few
    rw [show parts.length - 2 = 0 by omega, List.drop_zero]
  · rfl

/-- The last two labels of a longer hostname end with those of the shorter one. -/
lemma lastLabels_suffix_cons (c : UInt16) (hostname : JsString) :
    lastLabels (split hostname 46) <:+ lastLabels (split (c :: hostname) 46) := by
  rw [split, split, List.splitOn_cons_eq_if_modifyHead]
  obtain ⟨first, rest, labels⟩ := List.exists_cons_of_ne_nil (List.splitOn_ne_nil 46 hostname)
  rw [labels]
  by_cases dot : c = 46
  · rw [if_pos (beq_iff_eq.mpr dot)]
    cases rest with
    | nil => exact ⟨[46], by simp [lastLabels, join]⟩
    | cons second rest =>
      rw [lastLabels_cons [] (first :: second :: rest) (by simp)]
  · rw [if_neg (mt beq_iff_eq.mp dot), List.modifyHead_cons]
    rcases rest with _ | ⟨second, _ | ⟨third, rest⟩⟩
    · exact ⟨[c], by simp [lastLabels, join]⟩
    · exact ⟨[c], by simp [lastLabels, join]⟩
    · rw [lastLabels_cons first (second :: third :: rest) (by simp),
        lastLabels_cons (c :: first) (second :: third :: rest) (by simp)]

/-- The domain of a hostname ends with that of any hostname that it ends with. -/
lemma baseDomain_suffix {hostname hostname' : JsString} (plain : looksLikeRegex hostname = false)
    (plain' : looksLikeRegex hostname' = false) (suffix : hostname <:+ hostname') :
    baseDomain hostname <:+ baseDomain hostname' := by
  rw [baseDomain_plain plain, baseDomain_plain plain']
  obtain ⟨front, rfl⟩ := suffix
  clear plain'
  induction front with
  | nil => exact List.suffix_rfl
  | cons c front ih => exact ih.trans (lastLabels_suffix_cons c _)

/-- Two strings split alike at their first separator. -/
lemma append_hyphen_inj {key key' rest rest' : JsString} (free : 45 ∉ key) (free' : 45 ∉ key')
    (same : key ++ js "-" ++ rest = key' ++ js "-" ++ rest') : rest = rest' := by
  have upto {key : JsString} (free : 45 ∉ key) (rest : JsString) :
      (key ++ js "-" ++ rest).takeWhile (· ≠ 45) = key := by
    rw [List.append_assoc, List.takeWhile_append_of_pos]
    · exact List.append_nil key
    · intro c member
      exact decide_eq_true fun hyphen => free (hyphen ▸ member)
  have keys : key = key' := by rw [← upto free rest, same, upto free' rest']
  subst keys
  exact List.append_cancel_left same

/-- A domain with its hostname tells which hostname it is. -/
lemma baseDomain_inj {hostname hostname' : JsString} (plain : looksLikeRegex hostname = false)
    (plain' : looksLikeRegex hostname' = false) (shorter : hostname.length ≤ hostname'.length)
    (same : baseDomain hostname ++ js "-" ++ hostname =
      baseDomain hostname' ++ js "-" ++ hostname') : hostname = hostname' := by
  have inside : hostname <:+ baseDomain hostname' ++ js "-" ++ hostname' :=
    same ▸ List.suffix_append _ _
  have suffix := List.suffix_of_suffix_length_le inside (List.suffix_append _ _) shorter
  have domains := (baseDomain_suffix plain plain' suffix).length_le
  have length := congrArg List.length same
  simp only [List.length_append] at length
  exact suffix.eq_of_length (by omega)

-- two patterns whose keys and hostnames run into the same name
example : baseDomain (js "m-^.*-m") ++ js "-" ++ js "m-^.*-m" =
    baseDomain (js "^.*-m") ++ js "-" ++ js "^.*-m" := by decide

/-- A group lies under the key of its routes, or is the catch-all. -/
lemma groupRoutes_key {localeCompare : JsString → JsString → Int} {routes : List ProxyRoute}
    {mode : GroupingMode} {group : ServiceGroup}
    (listed : group ∈ groupRoutes localeCompare routes mode) {route : ProxyRoute}
    (member : route ∈ group.routes) :
    (group.key = groupKey mode route ∧ route ∈ routes) ∨
      (mode = .byPrefix ∧ group.key = otherKey) := by
  obtain ⟨e, stored, key, perm⟩ := groupRoutes_origin routes mode localeCompare listed
  have inside := perm.mem_iff.mp member
  have keyed (bucket : e ∈ (buckets (groupKey mode) routes).entries) :
      group.key = groupKey mode route ∧ route ∈ routes := by
    rw [((mem_buckets _).mp bucket).2] at inside
    obtain ⟨original, same⟩ := List.mem_filter.mp inside
    exact ⟨key.trans (of_decide_eq_true same).symm, original⟩
  rw [collect] at stored
  split at stored
  · rename_i byPrefix
    rcases mem_mergeSingles stored with ⟨bucket, _⟩ | ⟨other, _⟩
    · exact .inl (keyed bucket)
    · exact .inr ⟨byPrefix, key.trans other⟩
  · exact .inl (keyed stored)

/-- Outside domain mode no key has a hyphen. -/
lemma groupRoutes_key_free {localeCompare : JsString → JsString → Int} {routes : List ProxyRoute}
    {mode : GroupingMode} (keyed : mode = .source ∨ mode = .byPrefix) {group : ServiceGroup}
    (listed : group ∈ groupRoutes localeCompare routes mode) {route : ProxyRoute}
    (member : route ∈ group.routes) : 45 ∉ group.key := by
  rcases groupRoutes_key listed member with ⟨key, _⟩ | ⟨_, other⟩
  · rw [key]
    rcases keyed with rfl | rfl
    · rw [groupKey]
      cases route.source with
      | docker => decide
      | static => decide
      | traefik => decide
    · rw [groupKey, hostPrefix_eq]
      intro inside
      have := List.mem_takeWhile_imp inside
      simp at this
  · rw [other]
    decide

/-- The keys of groups and the hostnames in them tell members apart, unless patterns are grouped by
their domain. -/
lemma groupRoutes_separate {localeCompare : JsString → JsString → Int} {routes : List ProxyRoute}
    {mode : GroupingMode} (grouped : mode ≠ .none)
    (plain : mode = .domain → ∀ route ∈ routes, looksLikeRegex route.hostname = false) :
    Separate (groupRoutes localeCompare routes mode) := by
  intro group listed route member group' listed' route' member' same
  cases mode with
  | none => exact absurd rfl grouped
  | domain =>
    have keyed {group : ServiceGroup} (listed : group ∈ groupRoutes localeCompare routes .domain)
        {route : ProxyRoute} (member : route ∈ group.routes) :
        group.key = baseDomain route.hostname ∧ looksLikeRegex route.hostname = false := by
      rcases groupRoutes_key listed member with ⟨key, original⟩ | ⟨wrong, _⟩
      · exact ⟨key, plain rfl route original⟩
      · cases wrong
    obtain ⟨key, simple⟩ := keyed listed member
    obtain ⟨key', simple'⟩ := keyed listed' member'
    rw [key, key'] at same
    rcases le_total route.hostname.length route'.hostname.length with shorter | longer
    · exact baseDomain_inj simple simple' shorter same
    · exact (baseDomain_inj simple' simple longer same.symm).symm
  | source =>
    exact append_hyphen_inj (groupRoutes_key_free (.inl rfl) listed member)
      (groupRoutes_key_free (.inl rfl) listed' member') same
  | byPrefix =>
    exact append_hyphen_inj (groupRoutes_key_free (.inr rfl) listed member)
      (groupRoutes_key_free (.inr rfl) listed' member') same

/-- Whether a node stands for services. -/
def Node.isEntry (node : Node) : Bool :=
  match node.data with
  | .service .. => true
  | .serviceGroup .. => true
  | _ => false

section infra
variable (topology : ProxyTopology) (scale : ℚ)

/-- The identifiers of all nodes that there may be in front of the services. -/
def infraIds : List JsString :=
  [js "browser", js "http-client", js "sni-router", js "http-redirect", js "bun-https", js "traefik"]

/-- Their positions. -/
def infraPositions : List Position :=
  [⟨0 * scale, 60 * scale⟩, ⟨0 * scale, 200 * scale⟩, ⟨220 * scale, 60 * scale⟩,
    ⟨220 * scale, 200 * scale⟩, ⟨460 * scale, 60 * scale⟩, ⟨460 * scale, 200 * scale⟩]

lemma infraNodes_sublist :
    (infraNodes topology scale).map (fun node => (node.id, node.position)) <+
      infraIds.zip (infraPositions scale) := by
  unfold infraNodes
  cases topology.sniRouter with
  | none =>
    rw [Option.isSome_none, Bool.false_or]
    cases topology.traefik.ip.any (· ≠ []) with
    | true =>
      exact .cons_cons _ (.cons_cons _ (.cons _ (.cons_cons _ (.cons_cons _ (.cons_cons _ .slnil)))))
    | false =>
      exact .cons_cons _ (.cons_cons _ (.cons _ (.cons_cons _ (.cons_cons _ (.cons _ .slnil)))))
  | some sni => exact .refl _

lemma infraNodes_ids : ((infraNodes topology scale).map (·.id)) <+ infraIds := by
  have ids := (infraNodes_sublist topology scale).map Prod.fst
  rw [List.map_map] at ids
  exact ids

lemma infraNodes_positions :
    ((infraNodes topology scale).map (·.position)) <+ infraPositions scale := by
  have positions := (infraNodes_sublist topology scale).map Prod.snd
  rw [List.map_map] at positions
  exact positions

lemma bun_mem : js "bun-https" ∈ (infraNodes topology scale).map (·.id) := by
  unfold infraNodes
  simp

lemma infraNodes_plain : ∀ node ∈ infraNodes topology scale, node.isEntry = false := by
  unfold infraNodes
  cases topology.sniRouter with
  | none =>
    rw [Option.isSome_none, Bool.false_or]
    cases topology.traefik.ip.any (· ≠ []) with
    | true => simp [Node.isEntry]
    | false => simp [Node.isEntry]
  | some sni => simp [Node.isEntry]

lemma infraNodes_count : ((infraNodes topology scale).map (·.count)).sum = 0 := by
  unfold infraNodes
  cases topology.sniRouter with
  | none =>
    rw [Option.isSome_none, Bool.false_or]
    cases topology.traefik.ip.any (· ≠ []) with
    | true => simp [Node.count]
    | false => simp [Node.count]
  | some sni => simp [Node.count]

/-- The nodes in front of the services are a row apart, and in other columns than these. -/
lemma infraNodes_placed (positive : 0 < scale) :
    (infraNodes topology scale).Pairwise (Apart (baseRowHeight * scale)) ∧
      ∀ node ∈ infraNodes topology scale, node.position.x < baseCol .services * scale := by
  have apart : (infraPositions scale).Pairwise fun a b =>
      a.x = b.x → baseRowHeight * scale ≤ |a.y - b.y| := by
    have gap : 90 * scale ≤ |60 * scale - 200 * scale| := by
      rw [abs_sub_comm]
      exact le_trans (by linarith) (le_abs_self _)
    simp [infraPositions, baseRowHeight, positive.ne', gap]
  have left : ∀ p ∈ infraPositions scale, p.x < baseCol .services * scale := by
    have wide (column : ℚ) (before : column < 720) : column * scale < baseCol .services * scale :=
      mul_lt_mul_of_pos_right before positive
    simp only [infraPositions, List.forall_mem_cons]
    refine ⟨wide 0 ?_, wide 0 ?_, wide 220 ?_, wide 220 ?_, wide 460 ?_, wide 460 ?_,
      List.forall_mem_nil _⟩
    all_goals norm_num
  constructor
  · have listed := List.pairwise_map.mp (apart.sublist (infraNodes_positions topology scale))
    exact listed
  · intro node member
    exact left _ ((infraNodes_positions topology scale).subset (List.mem_map_of_mem member))

/-- The edges between them have distinct names, and run between them. -/
lemma infraEdges_ids : (infraEdges topology).map (·.id) <+
    [js "e-browser-sni", js "e-sni-bun", js "e-sni-traefik", js "e-http-redirect"] := by
  unfold infraEdges
  cases topology.sniRouter.isSome with
  | true => exact .refl _
  | false => exact .cons_cons _ (.cons _ (.cons _ (.cons_cons _ .slnil)))

lemma infraEdges_ends : ∀ edge ∈ infraEdges topology,
    edge.source ∈ (infraNodes topology scale).map (·.id) ∧
      edge.target ∈ (infraNodes topology scale).map (·.id) := by
  unfold infraEdges infraNodes
  cases topology.sniRouter with
  | none => simp
  | some sni => simp

lemma infraNode_id {node : Node} (member : node ∈ infraNodes topology scale) :
    (∀ hostname, node.id ≠ serviceId hostname) ∧ ∀ key, node.id ≠ groupId key := by
  have heads : ∀ id ∈ infraIds, 4 ≤ id.length ∧ id.take 4 ≠ js "svc-" ∧ id.take 4 ≠ js "grp-" := by
    decide
  have listed := (infraNodes_ids topology scale).subset (List.mem_map_of_mem member)
  obtain ⟨long, service, group⟩ := heads _ listed
  rw [← List.append_nil node.id]
  exact ⟨fun _ => append_ne_append 4 ⟨long, by decide⟩ service,
    fun _ => append_ne_append 4 ⟨long, by decide⟩ group⟩

lemma infraEdge_id {groups : List ServiceGroup} {edge : Edge} (member : edge ∈ infraEdges topology)
    (id : JsString) : ¬ Named groups id edge.id := by
  have heads : ∀ id ∈ [js "e-browser-sni", js "e-sni-bun", js "e-sni-traefik", js "e-http-redirect"],
      4 ≤ id.length ∧ id.take 4 ≠ js "e-bu" ∧ id.take 4 ≠ js "e-gr" := by
    decide
  have listed := (infraEdges_ids topology).subset (List.mem_map_of_mem member)
  obtain ⟨long, bun, group⟩ := heads _ listed
  intro named
  generalize written : edge.id = name at named
  rw [← List.append_nil edge.id] at written
  cases named with
  | alone => exact absurd written (append_ne_append 4 ⟨long, by decide⟩ bun)
  | group => exact absurd written (append_ne_append 4 ⟨long, by decide⟩ bun)
  | member => exact absurd written (append_ne_append 4 ⟨long, by decide⟩ group)

end infra

section unique

lemma uniqueRoutes_append (routes : List ProxyRoute) (route : ProxyRoute) :
    uniqueRoutes (routes ++ [route]) =
      if ((uniqueRoutes routes).get route.hostname).isNone
      then (uniqueRoutes routes).set route.hostname route else uniqueRoutes routes := by
  rw [uniqueRoutes, List.foldl_append]
  rfl

/-- The route that is left for a hostname is its first. -/
lemma uniqueRoutes_get (routes : List ProxyRoute) (hostname : JsString) :
    (uniqueRoutes routes).get hostname = routes.find? (·.hostname = hostname) := by
  induction routes using List.reverseRecOn with
  | nil => rfl
  | append_singleton routes last ih =>
    rw [uniqueRoutes_append, List.find?_append, ← ih]
    by_cases here : last.hostname = hostname
    · rw [List.find?_cons_of_pos (by simpa using here), here]
      cases known : (uniqueRoutes routes).get hostname with
      | none =>
        rw [if_pos Option.isNone_none, OrderedMap.get_set, if_pos rfl]
        rfl
      | some first =>
        rw [if_neg (by simp), known]
        rfl
    · rw [List.find?_cons_of_neg (by simpa using here), List.find?_nil, Option.or_none]
      split
      · rw [OrderedMap.get_set, if_neg here]
      · rfl

/-- The routes that are left have the hostnames under which they are stored. -/
lemma uniqueRoutes_key (routes : List ProxyRoute) :
    ∀ e ∈ (uniqueRoutes routes).entries, e.2.hostname = e.1 := by
  intro e member
  have first := OrderedMap.get_eq_some.mpr (show (e.1, e.2) ∈ _ from member)
  rw [uniqueRoutes_get] at first
  simpa using List.find?_some first

/-- Each hostname is left once. -/
lemma uniqueRoutes_nodup (routes : List ProxyRoute) :
    ((uniqueRoutes routes).entries.map (·.2.hostname)).Nodup := by
  rw [List.map_congr_left (uniqueRoutes_key routes)]
  exact (uniqueRoutes routes).nodup

variable (bar : Toolbar) (stats : Option ProxyStats) (routes : List ProxyRoute)

lemma visibleRoutes_sublist :
    (visibleRoutes bar stats routes).1 <+ (uniqueRoutes routes).entries.map (·.2) := by
  unfold visibleRoutes
  dsimp only
  split
  · exact List.filter_sublist
  · exact .refl _

/-- For each hostname its first route is drawn, unless the filter hides it. -/
lemma visibleRoutes_first {route : ProxyRoute} (member : route ∈ routes) :
    ∃ first, routes.find? (·.hostname = route.hostname) = some first ∧
      (first ∈ (visibleRoutes bar stats routes).1 ∨ isFilterActive bar.filters = true ∧
        matchesRoute bar.toLowerCase first stats bar.filters = false) := by
  cases found : routes.find? (·.hostname = route.hostname) with
  | none => exact absurd (List.find?_eq_none.mp found route member) (by simp)
  | some first =>
    refine ⟨first, rfl, ?_⟩
    rw [← uniqueRoutes_get, OrderedMap.get_eq_some] at found
    have left : first ∈ (uniqueRoutes routes).entries.map (·.2) :=
      List.mem_map_of_mem (f := (·.2)) found
    unfold visibleRoutes
    dsimp only
    split
    · rename_i hidden
      simp only [Bool.and_eq_true] at hidden
      cases passes : matchesRoute bar.toLowerCase first stats bar.filters with
      | true => exact .inl (List.mem_filter.mpr ⟨left, passes⟩)
      | false => exact .inr ⟨hidden.1.2, rfl⟩
    · exact .inl left

lemma visibleRoutes_nodup : ((visibleRoutes bar stats routes).1.map (·.hostname)).Nodup := by
  have names := (visibleRoutes_sublist bar stats routes).map (·.hostname)
  rw [List.map_map] at names
  exact (uniqueRoutes_nodup routes).sublist names

end unique

/-- Grouping shows no hostname twice. -/
lemma groupRoutes_hostnames {localeCompare : JsString → JsString → Int} {routes : List ProxyRoute}
    {mode : GroupingMode} (nodup : (routes.map (·.hostname)).Nodup) :
    (((groupRoutes localeCompare routes mode).flatMap (·.routes)).map (·.hostname)).Nodup := by
  have groups := (groupRoutes_routes routes mode localeCompare).map (·.hostname)
  rw [groups.nodup_iff, collect]
  have stored : ((buckets (groupKey mode) routes).contents.map (·.hostname)).Nodup :=
    ((contents_buckets (groupKey mode) routes).map _).nodup_iff.mpr nodup
  split
  · have whole := (contents_mergeSingles (buckets (groupKey mode) routes)).map (·.hostname)
    rw [← whole.nodup_iff, List.map_append] at stored
    exact stored.of_append_left
  · exact stored

lemma foldl_bump {κ α : Type} [DecidableEq κ] (kind : α → κ) (l : List α) (k : κ) :
    l.foldl (fun counts a => bump counts (kind a)) (fun _ => 0) k = l.countP (kind · = k) := by
  induction l using List.reverseRecOn with
  | nil => rfl
  | append_singleton l a ih =>
    rw [List.foldl_append, List.foldl_cons, List.foldl_nil, bump, ih, List.countP_append,
      List.countP_singleton]
    by_cases here : kind a = k
    · simp [here]
    · simp [here, Ne.symm here]

/-- What is drawn for services, and may stand beside the nodes in front of them. -/
structure Drawable (scale : ℚ) (groups : List ServiceGroup) (items : List (Node × Edge)) : Prop where
  ids : (items.map (·.1.id)).Nodup
  leads : ∀ item ∈ items, Leads items item
  placed : ∀ item ∈ items, baseCol .services * scale ≤ item.1.position.x
  apart : items.Pairwise fun a b => Apart (baseRowHeight * scale) a.1 b.1
  named : ∀ item ∈ items, Named groups item.1.id item.2.id

/-- A diagram that can be drawn, of the first route of every hostname where it passes the filter. -/
structure Layout.Sound (bar : Toolbar) (topology : ProxyTopology) (stats : Option ProxyStats)
    (scale : ℚ) (l : Layout) : Prop where
  ids : (l.nodes.map (·.id)).Nodup
  ends : ∀ edge ∈ l.edges,
    edge.source ∈ l.nodes.map (·.id) ∧ edge.target ∈ l.nodes.map (·.id)
  apart : l.nodes.Pairwise (Apart (baseRowHeight * scale))
  entered : ∀ node ∈ l.nodes, node.isEntry = true → l.edges.countP (·.target = node.id) = 1
  edge_ids : ∀ visible mode, visibleRoutes bar stats (topology.routes.getD []) = (visible, mode) →
    (mode = .domain → ∀ route ∈ visible, looksLikeRegex route.hostname = false) →
      (l.edges.map (·.id)).Nodup
  hostnames : ∀ visible mode, visibleRoutes bar stats (topology.routes.getD []) = (visible, mode) →
    ∀ route ∈ topology.routes.getD [], ∃ first,
      (topology.routes.getD []).find? (·.hostname = route.hostname) = some first ∧
        (first ∈ visible ∨ isFilterActive bar.filters = true ∧
          matchesRoute bar.toLowerCase first stats bar.filters = false)
  shows : ∀ visible mode, visibleRoutes bar stats (topology.routes.getD []) = (visible, mode) →
    ¬ (mode = .byPrefix ∧ Collision visible) →
      (l.nodes.map (·.count)).sum = visible.length ∧
      ∀ route ∈ visible, ∃ node ∈ l.nodes, node.Serves stats route ∨
        ∃ group ∈ groupRoutes bar.localeCompare visible mode,
          route ∈ group.routes ∧ node.Folds stats group
  sources : ∀ kind, l.sourceCounts kind =
    ((uniqueRoutes (topology.routes.getD [])).entries.map (·.2)).countP (·.source = kind)
  healths : ∀ kind, l.healthCounts kind =
    ((uniqueRoutes (topology.routes.getD [])).entries.map (·.2)).countP fun route =>
      healthOf (hostStat stats route.hostname) = kind

section sound
variable {topology : ProxyTopology} {scale : ℚ} {groups : List ServiceGroup}
  {items : List (Node × Edge)} (drawable : Drawable scale groups items)
include drawable

lemma Drawable.other {item : Node × Edge} (inside : item ∈ items) {node : Node}
    (member : node ∈ infraNodes topology scale) : item.1.id ≠ node.id := by
  obtain ⟨services, groups⟩ := infraNode_id topology scale member
  have named := drawable.named item inside
  intro same
  rw [same] at named
  generalize written : node.id = id at named
  generalize item.2.id = name at named
  cases named with
  | alone => exact services _ written
  | group => exact groups _ written
  | member => exact services _ written

lemma Drawable.nodes_ids :
    ((infraNodes topology scale ++ items.map (·.1)).map (·.id)).Nodup := by
  rw [List.map_append, List.map_map]
  have front : ((infraNodes topology scale).map (·.id)).Nodup :=
    (by decide : infraIds.Nodup).sublist (infraNodes_ids topology scale)
  refine front.append drawable.ids ?_
  intro id here there
  obtain ⟨node, member, rfl⟩ := List.mem_map.mp here
  obtain ⟨item, inside, same⟩ := List.mem_map.mp there
  exact drawable.other inside member same

lemma Drawable.ends : ∀ edge ∈ items.map (·.2) ++ infraEdges topology,
    edge.source ∈ (infraNodes topology scale ++ items.map (·.1)).map (·.id) ∧
      edge.target ∈ (infraNodes topology scale ++ items.map (·.1)).map (·.id) := by
  rw [List.map_append, List.map_map]
  intro edge member
  rcases List.mem_append.mp member with drawn | front
  · obtain ⟨item, inside, rfl⟩ := List.mem_map.mp drawn
    obtain ⟨target, source⟩ := drawable.leads item inside
    constructor
    · rcases source with bun | drawn
      · rw [bun]
        exact List.mem_append_left _ (bun_mem topology scale)
      · exact List.mem_append_right _ drawn
    · rw [target]
      exact List.mem_append_right _ (List.mem_map_of_mem (f := fun item => item.1.id) inside)
  · obtain ⟨source, target⟩ := infraEdges_ends topology scale edge front
    exact ⟨List.mem_append_left _ source, List.mem_append_left _ target⟩

lemma Drawable.nodes_apart (positive : 0 < scale) :
    (infraNodes topology scale ++ items.map (·.1)).Pairwise (Apart (baseRowHeight * scale)) := by
  obtain ⟨apart, left⟩ := infraNodes_placed topology scale positive
  refine List.pairwise_append.mpr ⟨apart, List.pairwise_map.mpr drawable.apart, ?_⟩
  intro node member other drawn same
  obtain ⟨item, inside, rfl⟩ := List.mem_map.mp drawn
  have := left node member
  have := drawable.placed item inside
  exact absurd same (by linarith)

/-- A node that is drawn for services is reached by its own edge only. -/
lemma Drawable.entered : ∀ node ∈ infraNodes topology scale ++ items.map (·.1),
    node.isEntry = true →
      (items.map (·.2) ++ infraEdges topology).countP (·.target = node.id) = 1 := by
  intro node member entry
  rcases List.mem_append.mp member with front | drawn
  · rw [infraNodes_plain topology scale node front] at entry
    cases entry
  · obtain ⟨item, inside, rfl⟩ := List.mem_map.mp drawn
    have elsewhere : (infraEdges topology).countP (·.target = item.1.id) = 0 := by
      rw [List.countP_eq_zero]
      intro edge listed
      obtain ⟨node, member, same⟩ := List.mem_map.mp (infraEdges_ends topology scale edge listed).2
      rw [← same, decide_eq_true_eq]
      exact (drawable.other inside member).symm
    have targets : items.map (·.2.target) = items.map (·.1.id) :=
      List.map_congr_left fun item member => (drawable.leads item member).1
    have own : (items.map (·.2)).countP (·.target = item.1.id) =
        (items.map (·.1.id)).count item.1.id := by
      rw [← targets, List.countP_map, List.count_eq_countP, List.countP_map]
      apply List.countP_congr
      intro other _
      simp
    rw [List.countP_append, elsewhere, own, Nat.add_zero]
    exact List.count_eq_one_of_mem drawable.ids (List.mem_map_of_mem (f := fun item => item.1.id) inside)

lemma Drawable.edges_ids (separate : Separate groups) :
    ((items.map (·.2) ++ infraEdges topology).map (·.id)).Nodup := by
  rw [List.map_append, List.map_map]
  have front : ((infraEdges topology).map (·.id)).Nodup :=
    (by decide : [js "e-browser-sni", js "e-sni-bun", js "e-sni-traefik",
      js "e-http-redirect"].Nodup).sublist (infraEdges_ids topology)
  have drawn : (items.map (·.2.id)).Nodup := by
    apply List.Nodup.map_on ?_ (List.Nodup.of_map _ drawable.ids)
    intro a inside b inside' same
    have named := drawable.named a inside
    rw [same] at named
    exact List.inj_on_of_nodup_map drawable.ids inside inside'
      (named.inj separate (drawable.named b inside'))
  refine drawn.append front ?_
  intro id service here
  obtain ⟨item, inside, rfl⟩ := List.mem_map.mp service
  obtain ⟨edge, listed, same⟩ := List.mem_map.mp here
  have named := drawable.named item inside
  rw [show item.2.id = edge.id from same.symm] at named
  exact infraEdge_id topology listed _ named

end sound

section drawing
variable (stats : Option ProxyStats) (dimmedFor : ProxyRoute → Bool)
  (expandedGroups : JsString → Bool) (groupDimmed : ServiceGroup → Bool) {scale : ℚ}
  (positive : 0 < scale)
include positive

/-- Groups can be drawn. -/
lemma groupsItems_drawable (localeCompare : JsString → JsString → Int) {routes : List ProxyRoute}
    (mode : GroupingMode) (nodup : (routes.map (·.hostname)).Nodup) (y : ℚ) :
    Drawable scale (groupRoutes localeCompare routes mode)
      (groupsItems stats scale dimmedFor expandedGroups groupDimmed
        (groupRoutes localeCompare routes mode) y) := by
  have nonempty : ∀ group ∈ groupRoutes localeCompare routes mode, group.routes ≠ [] := by
    intro group member empty
    obtain ⟨e, stored, _, same⟩ := groupRoutes_origin routes mode localeCompare member
    rw [empty] at same
    exact collect_nonempty routes mode e stored same.nil_eq.symm
  obtain ⟨placed, apart⟩ := groupsItems_placed stats dimmedFor expandedGroups groupDimmed positive
    nonempty y
  refine ⟨?_, groupsItems_leads _ _ _ _ _ _ y, ?_, apart,
    groupsItems_named _ _ _ _ _ (List.Subset.refl _) y⟩
  · exact groupsItems_ids _ _ _ _ _ y (groupRoutes_keys routes mode localeCompare)
      (groupRoutes_hostnames nodup)
  · intro item member
    obtain ⟨bottom, between⟩ := placed item member
    rcases between.column with column | column
    · exact column.ge
    · rw [column]
      exact mul_le_mul_of_nonneg_right (by norm_num [baseCol]) positive.le

/-- Services that are not grouped can be drawn. -/
lemma serviceItems_drawable {routes : List ProxyRoute}
    (nodup : (routes.map (·.hostname)).Nodup) (y : ℚ) :
    Drawable scale [] (serviceItems stats scale dimmedFor routes (baseCol .services * scale) y
      (js "bun-https")) := by
  obtain ⟨placed, apart⟩ := serviceItems_placed stats dimmedFor positive routes .services (.inl rfl) y
    (js "bun-https")
  refine ⟨?_, ?_, ?_, apart, ?_⟩
  · rw [serviceItems_ids]
    have services := nodup.map (f := serviceId) fun _ _ => serviceId_inj.mp
    rwa [List.map_map] at services
  · intro item member
    obtain ⟨⟨route, idx⟩, _, rfl⟩ := List.mem_map.mp member
    exact ⟨rfl, .inl rfl⟩
  · intro item member
    obtain ⟨⟨route, idx⟩, _, rfl⟩ := List.mem_map.mp member
    exact le_rfl
  · intro item member
    obtain ⟨⟨route, idx⟩, _, rfl⟩ := List.mem_map.mp member
    have named : Named [] (serviceId route.hostname) (js "e-bun-https-" ++ route.hostname) := .alone
    exact named

end drawing

/-- The services are drawn as nodes with the edges that lead to them, in a way that stands beside the
nodes in front, and every route has its place. -/
lemma pushVisible_eq (bar : Toolbar) (stats : Option ProxyStats) {scale : ℚ} (positive : 0 < scale)
    (dimmedFor : ProxyRoute → Bool) (groupDimmed : ServiceGroup → Bool) {visible : List ProxyRoute}
    (nodup : (visible.map (·.hostname)).Nodup) (mode : GroupingMode) (d : Drawing) :
    ∃ groups items, Drawable scale groups items ∧
      pushVisible bar stats scale dimmedFor groupDimmed visible mode d = d.append items ∧
      ((mode = .domain → ∀ route ∈ visible, looksLikeRegex route.hostname = false) →
        Separate groups) ∧
      (¬ (mode = .byPrefix ∧ Collision visible) →
        (items.map (·.1.count)).sum = visible.length ∧
        ∀ route ∈ visible, ∃ item ∈ items, item.1.Serves stats route ∨
          ∃ group ∈ groupRoutes bar.localeCompare visible mode,
            route ∈ group.routes ∧ item.1.Folds stats group) := by
  by_cases single : mode = .none
  · refine ⟨[], serviceItems stats scale dimmedFor visible (baseCol .services * scale) (10 * scale)
      (js "bun-https"), serviceItems_drawable stats dimmedFor positive nodup (10 * scale),
      ?_, ?_, ?_⟩
    · rw [pushVisible, if_pos single, pushServices_eq]
    · intro _ group listed
      cases listed
    · intro _
      refine ⟨serviceItems_count .., fun route member => ?_⟩
      obtain ⟨item, inside, serves⟩ := serviceItems_serves stats scale dimmedFor member
        (baseCol .services * scale) (10 * scale) (js "bun-https")
      exact ⟨item, inside, .inl serves⟩
  · refine ⟨groupRoutes bar.localeCompare visible mode, groupsItems stats scale dimmedFor
      bar.expandedGroups groupDimmed (groupRoutes bar.localeCompare visible mode) (10 * scale),
      groupsItems_drawable stats dimmedFor bar.expandedGroups groupDimmed positive bar.localeCompare
        mode nodup (10 * scale), ?_, groupRoutes_separate single, ?_⟩
    · rw [pushVisible, if_neg single, foldl_pushGroup]
    · intro complete
      have partition := (groupRoutes_routes visible mode bar.localeCompare).trans
        ((contents_collect visible mode).mpr complete)
      refine ⟨(groupsItems_count ..).trans partition.length_eq, fun route member => ?_⟩
      obtain ⟨group, listed, inside⟩ := List.mem_flatMap.mp (partition.mem_iff.mpr member)
      obtain ⟨item, drawn, shown⟩ := groupsItems_shows stats scale dimmedFor bar.expandedGroups
        groupDimmed listed inside (10 * scale)
      exact ⟨item, drawn, shown.imp_right fun folds => ⟨group, listed, inside, folds⟩⟩

/-- The layout draws the services between its own nodes and its own edges. -/
lemma useFlowLayout_drawn (bar : Toolbar) (topology : ProxyTopology) (stats : Option ProxyStats)
    (scale : ℚ) {visible : List ProxyRoute} {mode : GroupingMode}
    (shown : visibleRoutes bar stats (topology.routes.getD []) = (visible, mode)) :
    ∃ dimmedFor groupDimmed,
      let drawn := pushVisible bar stats scale dimmedFor groupDimmed visible mode
        { nodes := infraNodes topology scale }
      (useFlowLayout bar (some topology) stats scale).nodes = drawn.nodes ∧
        (useFlowLayout bar (some topology) stats scale).edges =
          drawn.edges ++ infraEdges topology := by
  unfold useFlowLayout
  dsimp only
  rw [shown]
  exact ⟨_, _, rfl, rfl⟩

end Pintle.Grouping
