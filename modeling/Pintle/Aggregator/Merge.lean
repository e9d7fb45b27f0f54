import Mathlib.Data.List.Induction
import Pintle.Provider

/-!
# Merging provider messages

Model of the map and of `merge` of `internal/aggregator/aggregator.go`: the last message of each
provider, and the configuration merged from them. `merge` ranges over the map, so it takes the order
of that range; the channel of `Update` belongs to the pipeline.
-/

namespace Pintle
open Go

/-- Go `Configuration`. -/
structure Configuration where
  routes : List Route := []
  tcpRoutes : List TcpRoute := []
  passthrough : List PassthroughDomain := []
  expected : List ExpectedHost := []
  deriving DecidableEq, Repr

/-- The last message of each provider (Go `Aggregator.configs`). -/
abbrev Configs := GoMap GoString Message

/-- One iteration of the loop of Go `merge`. -/
def Configuration.add (cfg : Configuration) (msg : Message) : Configuration where
  routes := cfg.routes ++ msg.routes
  tcpRoutes := cfg.tcpRoutes ++ msg.tcpRoutes
  passthrough := if msg.passthrough.length > 0 then msg.passthrough else cfg.passthrough
  expected := if msg.expected.length > 0 then msg.expected else cfg.expected

/-- Go `merge`. -/
def merge (ord : RangeOrder (GoString × Message)) (configs : Configs) : Configuration :=
  (ord.visit configs.pairs).foldl (fun cfg entry => cfg.add entry.2) {}

/-- Store a message as its provider's last one (the first statement of Go `Aggregator.Update`). -/
def Configs.store (configs : Configs) (msg : Message) : Configs := configs.insert msg.providerName msg

lemma foldl_add_routes (msgs : List (GoString × Message)) (cfg : Configuration) :
    (msgs.foldl (fun cfg entry => cfg.add entry.2) cfg).routes =
      cfg.routes ++ msgs.flatMap (·.2.routes) := by
  induction msgs generalizing cfg with
  | nil => simp
  | cons entry msgs ih =>
    rw [List.foldl_cons, ih, List.flatMap_cons, ← List.append_assoc]
    rfl

lemma foldl_add_tcpRoutes (msgs : List (GoString × Message)) (cfg : Configuration) :
    (msgs.foldl (fun cfg entry => cfg.add entry.2) cfg).tcpRoutes =
      cfg.tcpRoutes ++ msgs.flatMap (·.2.tcpRoutes) := by
  induction msgs generalizing cfg with
  | nil => simp
  | cons entry msgs ih =>
    rw [List.foldl_cons, ih, List.flatMap_cons, ← List.append_assoc]
    rfl

/-- The last message with passthrough entries decides. -/
lemma foldl_add_passthrough (msgs : List (GoString × Message)) (cfg : Configuration) :
    (msgs.foldl (fun cfg entry => cfg.add entry.2) cfg).passthrough =
      ((msgs.map (·.2.passthrough)).filter (· ≠ [])).getLast?.getD cfg.passthrough := by
  induction msgs using List.reverseRecOn with
  | nil => rfl
  | append_singleton msgs entry ih =>
    rw [List.foldl_append, List.map_append, List.filter_append]
    have last : ([entry].foldl (fun cfg entry => cfg.add entry.2)
        (msgs.foldl (fun cfg entry => cfg.add entry.2) cfg)).passthrough =
        if entry.2.passthrough.length > 0 then entry.2.passthrough
        else (msgs.foldl (fun cfg entry => cfg.add entry.2) cfg).passthrough := rfl
    rw [last, ih]
    by_cases empty : entry.2.passthrough = []
    · simp [empty]
    · simp [empty, List.length_pos_iff.mpr empty]

/-- The merged routes are those of the messages, in the order visited. -/
lemma merge_routes (ord : RangeOrder (GoString × Message)) (configs : Configs) :
    (merge ord configs).routes = (ord.visit configs.pairs).flatMap (·.2.routes) :=
  foldl_add_routes _ {}

lemma merge_tcpRoutes (ord : RangeOrder (GoString × Message)) (configs : Configs) :
    (merge ord configs).tcpRoutes = (ord.visit configs.pairs).flatMap (·.2.tcpRoutes) :=
  foldl_add_tcpRoutes _ {}

/-- The merged passthrough domains are those of one message that has any, if there is one. -/
lemma merge_passthrough (ord : RangeOrder (GoString × Message)) (configs : Configs) :
    (merge ord configs).passthrough =
      (((ord.visit configs.pairs).map (·.2.passthrough)).filter (· ≠ [])).getLast?.getD [] :=
  foldl_add_passthrough _ {}

end Pintle
