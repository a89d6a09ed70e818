import Maat.Scenario

/-! # The measurement graph as the dispatcher sees it

`measure_variable_shim` reaches the graph through five calls of `graph-core`: add a node
for a variable, ask whether a node holds data of a type, read a node's address, attach
marshalled data, and get the graph's path. `GraphOps` takes them as parameters, so that
the dispatcher's results hold for any outcome of these calls. `MeasurementGraph` is one
graph that implements them as the spec describes, `GraphOps.Lawful` collects what
idempotent re-measurement needs of a graph, and `GraphOps.Typed` what telling measurement
types apart needs. `MeasurementGraph.Extends` is how that graph
changes when nodes and data are only added to it. -/

namespace Maat.Dispatch

/-- A measurement type. The code compares types by the address of their single registered
instance; here they are compared by name. -/
structure MeasurementType where
  name : String
  deriving DecidableEq, Repr

/-- `kernel_measurement_type`. -/
def kernelMeasurementType : MeasurementType := ⟨"kernel"⟩

/-- `blob_measurement_type`. -/
def blobMeasurementType : MeasurementType := ⟨"blob"⟩

/-- A node's address as `measurement_node_get_address` returns it. -/
inductive Address
  /-- A `dynamic_measurement_request_address`: the attester to ask and the resource it runs. -/
  | dynamicMeasurementRequest (attester resource : String)
  /-- An address in another address space, named by the space. -/
  | other (space : String)
  deriving DecidableEq, Repr

/-- `measurement_variable`: a target type and an address. -/
structure Variable where
  targetType : String
  address : Address
  deriving DecidableEq, Repr

/-- `marshalled_data`: serialized measurement data of one type. -/
structure MarshalledData where
  type : MeasurementType
  bytes : Bytes
  deriving DecidableEq, Repr

/-- The graph calls the dispatcher makes, on graphs of type `G`. Node ids are `Nat`. -/
structure GraphOps (G : Type) where
  /-- `measurement_graph_add_node(g, var, NULL, &n)`: its result, the node, the graph. -/
  addNode : G → Variable → Int × Nat × G
  /-- `measurement_node_has_data(g, n, type)`. -/
  hasData : G → Nat → MeasurementType → Bool
  /-- `measurement_node_get_address(g, n)`; `none` is NULL. -/
  getAddress : G → Nat → Option Address
  /-- `measurement_node_add_data(g, n, md)`: its result and the graph. -/
  addData : G → Nat → MarshalledData → Int × G
  /-- `measurement_graph_get_path(g)`; `none` is NULL. -/
  getPath : G → Option String

/-- The id of the first node whose variable is `var`. -/
def findNode : List Variable → Variable → Option Nat
  | [], _ => none
  | v :: vs, var => if v = var then some 0 else (findNode vs var).map (· + 1)

theorem findNode_append_self {vs : List Variable} {var : Variable} (h : findNode vs var = none) :
    findNode (vs ++ [var]) var = some vs.length := by
  induction vs with
  | nil => simp [findNode]
  | cons v vs ih =>
      simp only [findNode] at h ⊢
      split_ifs at h ⊢
      simp only [Option.map_eq_none'] at h
      simp [ih h]

/-- A variable that has a node keeps its id when more variables are added. -/
theorem findNode_append_of_eq_some {vs ws : List Variable} {var : Variable} {n : Nat}
    (h : findNode vs var = some n) : findNode (vs ++ ws) var = some n := by
  induction vs generalizing n with
  | nil => simp [findNode] at h
  | cons v vs ih =>
      simp only [findNode, List.cons_append] at h ⊢
      split_ifs at h ⊢
      · exact h
      · obtain ⟨m, hm, rfl⟩ := Option.map_eq_some'.1 h
        simp [ih hm]

/-- Modelled from the spec: the measurement graph of `graph-core`, which src/ does not
hold. Nodes are numbered in the order they were added, at most one per variable; `data`
lists the marshalled data attached, with its node. -/
structure MeasurementGraph where
  vars : List Variable
  data : List (Nat × MarshalledData)
  path : Option String
  deriving DecidableEq, Repr

namespace MeasurementGraph

/-- Adding a variable already in the graph returns its node with 1; a new one gets the
next id with 0. -/
def addNode (g : MeasurementGraph) (var : Variable) : Int × Nat × MeasurementGraph :=
  match findNode g.vars var with
  | some n => (1, n, g)
  | none => (0, g.vars.length, { g with vars := g.vars ++ [var] })

def hasData (g : MeasurementGraph) (n : Nat) (t : MeasurementType) : Bool :=
  g.data.any fun d => d.1 == n && d.2.type == t

def getAddress (g : MeasurementGraph) (n : Nat) : Option Address :=
  g.vars[n]?.map Variable.address

/-- Adding a variable leaves the graph as it was exactly when the variable has a node. -/
theorem addNode_graph_eq_self_iff (g : MeasurementGraph) (var : Variable) :
    (g.addNode var).2.2 = g ↔ (findNode g.vars var).isSome := by
  unfold addNode
  split
  · simp_all
  · next h =>
      simp only [h, Option.isSome_none, Bool.false_eq_true, iff_false]
      intro heq
      simpa using congrArg (·.vars.length) heq

/-- Data is attached to an existing node; any other id fails. -/
def addData (g : MeasurementGraph) (n : Nat) (md : MarshalledData) : Int × MeasurementGraph :=
  if n < g.vars.length then (0, { g with data := g.data ++ [(n, md)] }) else (-1, g)

/-- `g'` is `g` with nodes and data added: every node keeps its id and every datum stays. -/
def Extends (g g' : MeasurementGraph) : Prop :=
  g.vars <+: g'.vars ∧ g.data <+: g'.data

@[refl] theorem Extends.refl (g : MeasurementGraph) : g.Extends g :=
  ⟨List.prefix_refl _, List.prefix_refl _⟩

@[trans] theorem Extends.trans {g₁ g₂ g₃ : MeasurementGraph} (h₁ : g₁.Extends g₂)
    (h₂ : g₂.Extends g₃) : g₁.Extends g₃ :=
  ⟨h₁.1.trans h₂.1, h₁.2.trans h₂.2⟩

theorem extends_addNode (g : MeasurementGraph) (var : Variable) : g.Extends (g.addNode var).2.2 := by
  unfold addNode
  split
  · exact .refl g
  · exact ⟨List.prefix_append _ _, List.prefix_refl _⟩

theorem Extends.findNode {g g' : MeasurementGraph} (h : g.Extends g') {var : Variable} {n : Nat}
    (hn : Dispatch.findNode g.vars var = some n) : Dispatch.findNode g'.vars var = some n := by
  obtain ⟨ws, hws⟩ := h.1
  rw [← hws]
  exact findNode_append_of_eq_some hn

theorem Extends.hasData {g g' : MeasurementGraph} (h : g.Extends g') {n : Nat}
    {t : MeasurementType} (hd : g.hasData n t) : g'.hasData n t := by
  simp only [MeasurementGraph.hasData, List.any_eq_true] at hd ⊢
  obtain ⟨d, hd, hp⟩ := hd
  exact ⟨d, h.2.subset hd, hp⟩

/-- The graph calls, on this graph. -/
def ops : GraphOps MeasurementGraph :=
  ⟨addNode, hasData, getAddress, addData, path⟩

theorem extends_addData (g : MeasurementGraph) (n : Nat) (md : MarshalledData) :
    g.Extends (g.addData n md).2 := by
  unfold addData
  split_ifs
  · exact ⟨List.prefix_refl _, List.prefix_append _ _⟩
  · exact .refl g

end MeasurementGraph

end Maat.Dispatch
