import Maat.Dispatch.Phase

/-! # The evidence a graph holds

What a verifier reads from the measurement graph is which variables carry data of which
type. `MeasurementGraph.evidence` maps the spec's graph to that view, `EvidenceStep` says
what one dispatch may do to it, and `EvidenceRun` chains the steps of a phase. A remote
dispatch on a well-formed graph is one `EvidenceStep`
(`measureVariableShim_evidenceStep`), and a phase whose requests all go to the channel ASP
is an `EvidenceRun` (`measurePhase_evidenceRun`). The facts proved once of the abstract
run, that evidence is never lost and that only blob evidence of requested variables is
added, then hold of the code.

## Implementation notes

A failed dispatch may leave the variable's new node behind, so the graph changes while the
evidence does not: a node without data is no evidence. That needs every datum to sit on a
node, which is `MeasurementGraph.WellFormed`, and the dispatcher keeps it.
-/

namespace Maat.Dispatch

/-- The node `findNode` returns holds the variable it was asked for. -/
theorem findNode_eq_some_getElem? {vs : List Variable} {var : Variable} {n : Nat}
    (h : findNode vs var = some n) : vs[n]? = some var := by
  induction vs generalizing n with
  | nil => simp [findNode] at h
  | cons v vs ih =>
      simp only [findNode] at h
      split_ifs at h with hv
      · cases h
        simp [hv]
      · obtain ⟨m, hm, rfl⟩ := Option.map_eq_some'.1 h
        simpa using ih hm

theorem findNode_lt {vs : List Variable} {var : Variable} {n : Nat}
    (h : findNode vs var = some n) : n < vs.length :=
  (List.getElem?_eq_some_iff.1 (findNode_eq_some_getElem? h)).1

/-- A node id names one variable. -/
theorem findNode_eq_of_eq_some {vs : List Variable} {v w : Variable} {n : Nat}
    (hv : findNode vs v = some n) (hw : findNode vs w = some n) : v = w :=
  Option.some.inj ((findNode_eq_some_getElem? hv).symm.trans (findNode_eq_some_getElem? hw))

theorem findNode_append_singleton_of_eq_none {vs : List Variable} {v var : Variable}
    (h : findNode vs v = none) (hne : v ≠ var) : findNode (vs ++ [var]) v = none := by
  induction vs with
  | nil => simp [findNode, Ne.symm hne]
  | cons w vs ih =>
      simp only [findNode] at h ⊢
      split_ifs at h ⊢
      simp only [Option.map_eq_none'] at h ⊢
      exact ih h

/-- What a graph tells a verifier: whether a variable has data of a type. -/
abbrev Evidence := Variable → MeasurementType → Bool

/-- `e` with data of type `t` for `var`. -/
def Evidence.add (e : Evidence) (var : Variable) (t : MeasurementType) : Evidence :=
  fun v t' => e v t' || (v == var && t == t')

namespace MeasurementGraph

/-- Every datum is attached to a node of the graph. -/
def WellFormed (g : MeasurementGraph) : Prop :=
  ∀ d ∈ g.data, d.1 < g.vars.length

instance (g : MeasurementGraph) : Decidable g.WellFormed :=
  inferInstanceAs (Decidable (∀ d ∈ g.data, d.1 < g.vars.length))

/-- A variable has evidence of a type when its node holds data of that type. -/
def evidence (g : MeasurementGraph) : Evidence := fun var t =>
  match findNode g.vars var with
  | some n => g.hasData n t
  | none => false

theorem findNode_addNode (g : MeasurementGraph) (var : Variable) :
    findNode (g.addNode var).2.2.vars var = some (g.addNode var).2.1 := by
  unfold addNode
  split
  · assumption
  · exact findNode_append_self (by assumption)

theorem hasData_length {g : MeasurementGraph} (hwf : g.WellFormed) (t : MeasurementType) :
    g.hasData g.vars.length t = false := by
  simp only [hasData, List.any_eq_false, Bool.and_eq_true, beq_iff_eq, not_and]
  intro d hd h
  exact absurd (h ▸ hwf d hd) (lt_irrefl _)

theorem wellFormed_addNode {g : MeasurementGraph} (hwf : g.WellFormed) (var : Variable) :
    (g.addNode var).2.2.WellFormed := by
  unfold addNode
  split
  · exact hwf
  · intro d hd
    simpa using Nat.lt_succ_of_lt (hwf d hd)

theorem wellFormed_addData {g : MeasurementGraph} (hwf : g.WellFormed) (n : Nat)
    (md : MarshalledData) : (g.addData n md).2.WellFormed := by
  unfold addData
  split_ifs with hn
  · intro d hd
    rcases List.mem_append.1 hd with hd | hd
    · exact hwf d hd
    · rw [List.mem_singleton.1 hd]
      exact hn
  · exact hwf

/-- Adding a node adds no evidence. -/
theorem evidence_addNode {g : MeasurementGraph} (hwf : g.WellFormed) (var : Variable) :
    (g.addNode var).2.2.evidence = g.evidence := by
  funext v t
  unfold addNode
  split
  · rfl
  · next hnone =>
      simp only [evidence]
      cases hv : findNode g.vars v with
      | some m =>
          rw [findNode_append_of_eq_some hv]
          rfl
      | none =>
          by_cases hvv : v = var
          · subst hvv
            rw [findNode_append_self hnone]
            exact hasData_length hwf t
          · rw [findNode_append_singleton_of_eq_none hv hvv]

/-- Attaching data to a variable's node adds evidence of its type for that variable alone. -/
theorem evidence_addData {g : MeasurementGraph} {var : Variable} {n : Nat}
    (hn : findNode g.vars var = some n) (md : MarshalledData) :
    (g.addData n md).2.evidence = g.evidence.add var md.type := by
  funext v t
  simp only [addData, if_pos (findNode_lt hn), evidence, Evidence.add]
  cases hv : findNode g.vars v with
  | none =>
      have hvv : v ≠ var := fun h => by rw [h, hn] at hv; cases hv
      simp [hvv]
  | some m =>
      simp only [hasData, List.any_append, List.any_cons, List.any_nil, Bool.or_false]
      by_cases hvv : v = var
      · subst hvv
        rw [hn] at hv
        cases hv
        simp
      · have hm : n ≠ m := fun h => hvv (findNode_eq_of_eq_some hv (h ▸ hn))
        simp only [beq_false_of_ne hvv, beq_false_of_ne hm, Bool.false_and]

end MeasurementGraph

/-! ## The abstract dispatch -/

/-- What one dispatch of `var` for `mtype` that returned `rc` may do to the evidence: a
failure adds none, and a success either found data of `mtype` there or added blob data,
whatever type was asked for. -/
inductive EvidenceStep (var : Variable) (mtype : MeasurementType) :
    Int → Evidence → Evidence → Prop
  | failed {rc : Int} {e : Evidence} : rc ≠ 0 → EvidenceStep var mtype rc e e
  | present {e : Evidence} : e var mtype = true → EvidenceStep var mtype 0 e e
  | measured {e : Evidence} : EvidenceStep var mtype 0 e (e.add var blobMeasurementType)

/-- A phase: one `EvidenceStep` per request, each with its own return code. -/
inductive EvidenceRun : List (Variable × MeasurementType) → Evidence → Evidence → Prop
  | nil (e : Evidence) : EvidenceRun [] e e
  | cons {var : Variable} {mtype : MeasurementType} {rc : Int} {e e' e'' : Evidence}
      {reqs : List (Variable × MeasurementType)} :
      EvidenceStep var mtype rc e e' → EvidenceRun reqs e' e'' →
        EvidenceRun ((var, mtype) :: reqs) e e''

section Abstract

variable {var v : Variable} {mtype t : MeasurementType} {rc : Int} {e e' : Evidence}

theorem EvidenceStep.mono (h : EvidenceStep var mtype rc e e') (hv : e v t = true) :
    e' v t = true := by
  cases h with
  | failed _ => exact hv
  | present _ => exact hv
  | measured => simp [Evidence.add, hv]

theorem EvidenceStep.added (h : EvidenceStep var mtype rc e e') (hv : e' v t = true) :
    e v t = true ∨ (v = var ∧ t = blobMeasurementType) := by
  cases h with
  | failed _ => exact .inl hv
  | present _ => exact .inl hv
  | measured =>
      simp only [Evidence.add, Bool.or_eq_true, Bool.and_eq_true, beq_iff_eq] at hv
      exact hv.imp_right fun h => ⟨h.1, h.2.symm⟩

/-- A step that failed left the evidence as it was. -/
theorem EvidenceStep.eq_of_ne_zero (h : EvidenceStep var mtype rc e e') (hrc : rc ≠ 0) :
    e' = e := by
  cases h with
  | failed _ => rfl
  | present _ => exact absurd rfl hrc
  | measured => exact absurd rfl hrc

/-- A phase loses no evidence. -/
theorem EvidenceRun.mono {reqs : List (Variable × MeasurementType)}
    (h : EvidenceRun reqs e e') (hv : e v t = true) : e' v t = true := by
  induction h with
  | nil => exact hv
  | cons hs _ ih => exact ih (hs.mono hv)

/-- A phase adds only blob evidence, and only for variables it was asked to measure. -/
theorem EvidenceRun.added {reqs : List (Variable × MeasurementType)}
    (h : EvidenceRun reqs e e') (hv : e' v t = true) :
    e v t = true ∨ (t = blobMeasurementType ∧ v ∈ reqs.map Prod.fst) := by
  induction h with
  | nil => exact .inl hv
  | cons hs _ ih =>
      rcases ih hv with h | ⟨ht, hmem⟩
      · exact (hs.added h).imp_right fun ⟨hv, ht⟩ => ⟨ht, hv ▸ List.mem_cons_self _ _⟩
      · exact .inr ⟨ht, List.mem_cons_of_mem _ hmem⟩

end Abstract

/-! ## The dispatcher refines it -/

/-- `addNodeChecked` stops with 0 only when the node it found holds data of the type. -/
theorem addNodeChecked_eq_error_zero {G : Type} {ops : GraphOps G} {g : G} {var : Variable}
    {mtype : MeasurementType} (h : (addNodeChecked ops g var mtype).2 = .error 0) :
    ops.hasData (ops.addNode g var).2.2 (ops.addNode g var).2.1 mtype = true := by
  unfold addNodeChecked at h
  dsimp only at h
  split_ifs at h with _ hd
  · exact hd
  · cases h

/-- The engine sends every request of a type other than the kernel's to the channel ASP. -/
def DispatchEnv.Remote {G : Type} (env : DispatchEnv G) : Prop :=
  ∀ g t v m, (env.selectAsp g t v m).1 = some "send_execute_tcp_asp"

theorem channelEnv_remote (status : Int) (accept : Bool) : (channelEnv status accept).Remote :=
  fun _ _ _ _ => rfl

section Refinement

variable (env : DispatchEnv MeasurementGraph) (asps : List String) (places : Places)
  (staged : Staged)

/-- On a well-formed graph, a dispatch on the `send_execute_tcp_asp` path is one
`EvidenceStep` with the code it returned, and leaves the graph well formed. -/
theorem measureVariableShim_evidenceStep (st : ShimState MeasurementGraph) (var : Variable)
    (mtype : MeasurementType) (hwf : st.graph.WellFormed)
    (hsel : (selectAspShim env asps st.graph mtype var st.mcount).1 = some "send_execute_tcp_asp") :
    EvidenceStep var mtype (measureVariableShim MeasurementGraph.ops env asps places staged st var mtype).1
        st.graph.evidence
        (measureVariableShim MeasurementGraph.ops env asps places staged st var mtype).2.1.graph.evidence ∧
      (measureVariableShim MeasurementGraph.ops env asps places staged st var mtype).2.1.graph.WellFormed := by
  have hev := MeasurementGraph.evidence_addNode hwf var
  have hwf₁ := MeasurementGraph.wellFormed_addNode hwf var
  have hnode := MeasurementGraph.findNode_addNode st.graph var
  rcases ha : (addNodeChecked MeasurementGraph.ops st.graph var mtype).2 with rc | n
  · rw [measureVariableShim_remote_error MeasurementGraph.ops env asps places staged hsel ha]
    refine ⟨?_, hwf₁⟩
    dsimp only [addNodeChecked_fst, MeasurementGraph.ops]
    rw [hev]
    by_cases hrc : rc = 0
    · subst hrc
      refine .present ?_
      rw [← hev, MeasurementGraph.evidence, hnode]
      exact addNodeChecked_eq_error_zero ha
    · exact .failed hrc
  · rw [measureVariableShim_remote_ok MeasurementGraph.ops env asps places staged hsel ha]
    obtain ⟨-, rfl, -⟩ := (addNodeChecked_ok_iff _).1 ha
    rcases (remoteMeasure_spec MeasurementGraph.ops env places staged _ _ _).1 with
      ⟨h1, h2⟩ | ⟨bytes, h⟩
    · rw [h1, h2]
      exact ⟨hev ▸ .failed (by decide), hwf₁⟩
    · generalize remoteMeasure MeasurementGraph.ops env places staged _ _ _ = r at h ⊢
      change (st.graph.addNode var).2.2.addData (st.graph.addNode var).2.1
        ⟨blobMeasurementType, bytes⟩ = _ at h
      obtain ⟨h1, h2⟩ : _ = r.1 ∧ _ = r.2.1.graph := Prod.ext_iff.1 h
      rw [← h1, ← h2, MeasurementGraph.evidence_addData hnode, hev]
      refine ⟨?_, MeasurementGraph.wellFormed_addData hwf₁ _ _⟩
      rw [MeasurementGraph.addData, if_pos (findNode_lt hnode)]
      exact .measured

/-- On a well-formed graph, a remote dispatch that fails adds no evidence, although it may
leave the variable's new node in the graph. -/
theorem failed_remote_dispatch_keeps_evidence (st : ShimState MeasurementGraph) (var : Variable)
    (mtype : MeasurementType) (hwf : st.graph.WellFormed)
    (hsel : (selectAspShim env asps st.graph mtype var st.mcount).1 = some "send_execute_tcp_asp")
    (hfail : (measureVariableShim MeasurementGraph.ops env asps places staged st var mtype).1 ≠ 0) :
    (measureVariableShim MeasurementGraph.ops env asps places staged st var mtype).2.1.graph.evidence =
      st.graph.evidence :=
  (measureVariableShim_evidenceStep env asps places staged st var mtype hwf hsel).1.eq_of_ne_zero
    hfail

/-- On the empty graph the channel fails: the dispatch leaves the variable's node behind and
no evidence. -/
theorem failed_app_list_dispatch_adds_no_evidence :
    (appListDispatch (-1) true emptyShimState blobMeasurementType).2.1.graph.evidence =
      emptyShimState.graph.evidence :=
  failed_remote_dispatch_keeps_evidence (channelEnv (-1) true) []
    ⟨⟨"127.0.0.1", "9000"⟩, ⟨"127.0.0.1", "9001"⟩⟩ ⟨"", "", "", "", "", "", "0"⟩ emptyShimState
    ⟨"file", .dynamicMeasurementRequest "@_t" "app-list"⟩ blobMeasurementType (by decide) rfl
    (by decide)

/-- On a well-formed graph, a phase whose requests all go to the channel ASP is an
`EvidenceRun` of its requests, and leaves the graph well formed. -/
theorem measurePhase_evidenceRun (hremote : env.Remote) (st : ShimState MeasurementGraph)
    (hwf : st.graph.WellFormed) (reqs : List (Variable × MeasurementType))
    (hreqs : ∀ req ∈ reqs, req.2 ≠ kernelMeasurementType) :
    EvidenceRun reqs st.graph.evidence
        (measurePhase MeasurementGraph.ops env asps places staged st reqs).1.graph.evidence ∧
      (measurePhase MeasurementGraph.ops env asps places staged st reqs).1.graph.WellFormed := by
  induction reqs generalizing st with
  | nil => exact ⟨.nil _, hwf⟩
  | cons req reqs ih =>
      have hsel : (selectAspShim env asps st.graph req.2 req.1 st.mcount).1 =
          some "send_execute_tcp_asp" := by
        rw [selectAspShim, if_neg (hreqs req (List.mem_cons_self _ _))]
        exact hremote _ _ _ _
      obtain ⟨hstep, hwf₁⟩ :=
        measureVariableShim_evidenceStep env asps places staged st req.1 req.2 hwf hsel
      obtain ⟨hrun, hwf₂⟩ := ih _ hwf₁ fun r hr => hreqs r (List.mem_cons_of_mem _ hr)
      exact ⟨.cons hstep hrun, hwf₂⟩

/-- On a well-formed graph, a phase whose requests all go to the channel ASP keeps every
piece of evidence, and the only evidence it adds is blob data of variables it was asked to
measure. -/
theorem remote_phase_adds_only_requested_blobs (hremote : env.Remote)
    (st : ShimState MeasurementGraph) (hwf : st.graph.WellFormed)
    (reqs : List (Variable × MeasurementType))
    (hreqs : ∀ req ∈ reqs, req.2 ≠ kernelMeasurementType) (v : Variable) (t : MeasurementType) :
    (st.graph.evidence v t = true →
        (measurePhase MeasurementGraph.ops env asps places staged st reqs).1.graph.evidence v t) ∧
      ((measurePhase MeasurementGraph.ops env asps places staged st reqs).1.graph.evidence v t →
        st.graph.evidence v t = true ∨ (t = blobMeasurementType ∧ v ∈ reqs.map Prod.fst)) :=
  have hrun := (measurePhase_evidenceRun env asps places staged hremote st hwf reqs hreqs).1
  ⟨hrun.mono, hrun.added⟩

end Refinement

/-- The scenario's phase on the empty graph gives its variable no kernel evidence. -/
theorem app_list_phase_adds_no_kernel_evidence :
    (measurePhase MeasurementGraph.ops (channelEnv 0 true) []
          ⟨⟨"127.0.0.1", "9000"⟩, ⟨"127.0.0.1", "9001"⟩⟩ ⟨"", "", "", "", "", "", "0"⟩
          emptyShimState
          [(⟨"file", .dynamicMeasurementRequest "@_t" "app-list"⟩, blobMeasurementType)]).1.graph.evidence
        ⟨"file", .dynamicMeasurementRequest "@_t" "app-list"⟩ kernelMeasurementType = false :=
  Bool.eq_false_iff.2 fun h =>
    ((remote_phase_adds_only_requested_blobs (channelEnv 0 true) []
        ⟨⟨"127.0.0.1", "9000"⟩, ⟨"127.0.0.1", "9001"⟩⟩ ⟨"", "", "", "", "", "", "0"⟩
        (channelEnv_remote 0 true) emptyShimState (by decide)
        [(⟨"file", .dynamicMeasurementRequest "@_t" "app-list"⟩, blobMeasurementType)] (by decide)
        _ _).2 h).elim (by decide) fun h => absurd h.1 (by decide)

end Maat.Dispatch
