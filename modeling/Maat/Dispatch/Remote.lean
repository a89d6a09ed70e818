import Maat.Dispatch.Shim

/-! # The remote-layered path: what it sends, and what a failure leaves

On the `send_execute_tcp_asp` path `measure_variable_shim` adds or finds the variable's node
first, and only then reads the node's address and resolves the attester. The channel ASP
runs at most once, for a node with no data of the type asked for, whose address is a
measurement request to `@_0` or `@_t`, with that place's addr and port, the address's
resource and the staged credentials. Any other address stops the path with no call, though a
node that already holds the data returns 0 before its address is read
(`remote_dispatch_sends_once_to_known_place`).

Every exit leaves the graph as `measurement_graph_add_node` left it, or with blob data
attached (`measureVariableShim_remote_graph`). On the spec's graph a failed dispatch
therefore attaches no data and keeps the node it added for a variable that was not in the
graph (`failed_remote_dispatch_keeps_data_adds_node`, `failed_remote_dispatch_unchanged_iff`). -/

namespace Maat.Dispatch

/-- Whether a call runs an ASP through `run_asp_buffers`. -/
def Invocation.isRunAspBuffers : Invocation → Bool
  | .runAspBuffers .. => true
  | _ => false

section Remote

variable {G : Type} (ops : GraphOps G) (env : DispatchEnv G) (asps : List String)
  (places : Places) (staged : Staged)

/-- The remote path runs the channel ASP at most once: for an address that is a measurement
request to an attester with a place, with that place and the address's resource. -/
theorem remoteMeasure_sends (st : ShimState G) (asp : String) (n : Nat) :
    (remoteMeasure ops env places staged st asp n).2.2.filter Invocation.isRunAspBuffers = [] ∨
      ∃ attester resource addr port status output,
        ops.getAddress st.graph n = some (.dynamicMeasurementRequest attester resource) ∧
        getTargetChannelInfo places attester = some (addr, port) ∧
        (remoteMeasure ops env places staged st asp n).2.2.filter Invocation.isRunAspBuffers =
          [.runAspBuffers asp (sendExecuteArgs addr port resource staged) status output] := by
  unfold remoteMeasure
  split
  · exact .inl rfl
  · next attester resource hreq =>
      split
      · exact .inl rfl
      · next addr port hinfo =>
          refine .inr ⟨attester, resource, addr, port,
            (env.runAspBuffers (sendExecuteArgs addr port resource staged)).1,
            (env.runAspBuffers (sendExecuteArgs addr port resource staged)).2,
            (getMeasurementRequestAddrFromNode_ok ops).1 hreq, hinfo, ?_⟩
          dsimp only
          split_ifs <;> (try split) <;> rfl

/-- On an address that is not a measurement request to `@_0` or `@_t`, the remote path
returns -1 and calls nothing. -/
theorem remoteMeasure_of_unknown (st : ShimState G) (asp : String) (n : Nat)
    (h : ∀ attester resource,
      ops.getAddress st.graph n = some (.dynamicMeasurementRequest attester resource) →
        attester ≠ "@_0" ∧ attester ≠ "@_t") :
    remoteMeasure ops env places staged st asp n = (-1, st, []) := by
  unfold remoteMeasure
  split
  · rfl
  · next attester resource hreq =>
      obtain ⟨h0, ht⟩ := h attester resource ((getMeasurementRequestAddrFromNode_ok ops).1 hreq)
      rw [show getTargetChannelInfo places attester = none by simp [getTargetChannelInfo, h0, ht]]

/-- On the `send_execute_tcp_asp` path the dispatch runs the channel ASP at most once: for
the node `measurement_graph_add_node` returned, holding no data of `mtype`, whose address is a
measurement request to an attester with a place. -/
theorem measureVariableShim_remote_sends (st : ShimState G) (var : Variable)
    (mtype : MeasurementType)
    (hsel : (selectAspShim env asps st.graph mtype var st.mcount).1 = some "send_execute_tcp_asp") :
    (measureVariableShim ops env asps places staged st var mtype).2.2.filter
        Invocation.isRunAspBuffers = [] ∨
      ∃ rc n g attester resource addr port status output,
        ops.addNode st.graph var = (rc, n, g) ∧ (rc = 0 ∨ rc = 1) ∧ ops.hasData g n mtype = false ∧
        ops.getAddress g n = some (.dynamicMeasurementRequest attester resource) ∧
        getTargetChannelInfo places attester = some (addr, port) ∧
        (measureVariableShim ops env asps places staged st var mtype).2.2.filter
            Invocation.isRunAspBuffers =
          [.runAspBuffers "send_execute_tcp_asp" (sendExecuteArgs addr port resource staged)
            status output] := by
  rcases ha : (addNodeChecked ops st.graph var mtype).2 with code | n
  · rw [measureVariableShim_remote_error ops env asps places staged hsel ha]
    exact .inl rfl
  · obtain ⟨hrc, rfl, hdata⟩ := (addNodeChecked_ok_iff ops).1 ha
    rw [measureVariableShim_remote_ok ops env asps places staged hsel ha]
    exact (remoteMeasure_sends ops env places staged _ _ _).imp id
      fun ⟨attester, resource, addr, port, status, output, hget, hinfo, h⟩ =>
        ⟨_, _, _, attester, resource, addr, port, status, output, rfl, hrc, hdata, hget, hinfo, h⟩

/-- On the `send_execute_tcp_asp` path, an address that is not a measurement request to `@_0`
or `@_t` gets no call; the dispatch returns 0 if the node already holds data of `mtype`, and
-1 otherwise. -/
theorem measureVariableShim_remote_of_unknown (st : ShimState G) (var : Variable)
    (mtype : MeasurementType)
    (hsel : (selectAspShim env asps st.graph mtype var st.mcount).1 = some "send_execute_tcp_asp")
    (rc : Int) (n : Nat) (g : G) (hadd : ops.addNode st.graph var = (rc, n, g))
    (hunk : ∀ attester resource,
      ops.getAddress g n = some (.dynamicMeasurementRequest attester resource) →
        attester ≠ "@_0" ∧ attester ≠ "@_t") :
    (measureVariableShim ops env asps places staged st var mtype).2.2 = [] ∧
      (measureVariableShim ops env asps places staged st var mtype).1 =
        if (rc = 0 ∨ rc = 1) ∧ ops.hasData g n mtype then 0 else -1 := by
  rcases ha : (addNodeChecked ops st.graph var mtype).2 with code | m
  · rw [measureVariableShim_remote_error ops env asps places staged hsel ha]
    refine ⟨rfl, ?_⟩
    simp only [addNodeChecked, hadd] at ha
    split_ifs at ha ⊢ <;> simp_all
  · obtain ⟨hrc, hn, hdata⟩ := (addNodeChecked_ok_iff ops).1 ha
    simp only [hadd] at hrc hn hdata
    subst hn
    rw [measureVariableShim_remote_ok ops env asps places staged hsel ha,
      remoteMeasure_of_unknown ops env places staged _ _ _ (by simpa [hadd] using hunk)]
    simp [hdata]

/-- A dispatch on the `send_execute_tcp_asp` path runs the channel ASP at most once. It runs
it only for the node `measurement_graph_add_node` returned, when that node holds no data of
`mtype` and its address is a measurement request to `@_0` or `@_t`. The argument vector is
that place's addr and port, the resource, and the seven staged values in order. For any other
address it calls nothing and returns 0 if the node already holds the data, -1 otherwise. -/
theorem remote_dispatch_sends_once_to_known_place (st : ShimState G) (var : Variable)
    (mtype : MeasurementType)
    (hsel : (selectAspShim env asps st.graph mtype var st.mcount).1 = some "send_execute_tcp_asp") :
    (measureVariableShim ops env asps places staged st var mtype).2.2.countP
        Invocation.isRunAspBuffers ≤ 1 ∧
      (∀ inv ∈ (measureVariableShim ops env asps places staged st var mtype).2.2,
        inv.isRunAspBuffers →
          ∃ rc n g attester resource status output,
            ops.addNode st.graph var = (rc, n, g) ∧ (rc = 0 ∨ rc = 1) ∧
            ops.hasData g n mtype = false ∧
            ops.getAddress g n = some (.dynamicMeasurementRequest attester resource) ∧
            (attester = "@_0" ∧ inv = .runAspBuffers "send_execute_tcp_asp"
                [places.domZ.addr, places.domZ.port, resource, staged.certfile, staged.keyfile,
                  staged.keypass, staged.nonce, staged.tpmpass, staged.akctx, staged.signTpm]
                status output ∨
              attester = "@_t" ∧ inv = .runAspBuffers "send_execute_tcp_asp"
                [places.domT.addr, places.domT.port, resource, staged.certfile, staged.keyfile,
                  staged.keypass, staged.nonce, staged.tpmpass, staged.akctx, staged.signTpm]
                status output)) ∧
      (∀ rc n g, ops.addNode st.graph var = (rc, n, g) →
        (∀ attester resource,
          ops.getAddress g n = some (.dynamicMeasurementRequest attester resource) →
            attester ≠ "@_0" ∧ attester ≠ "@_t") →
        (measureVariableShim ops env asps places staged st var mtype).2.2 = [] ∧
          (measureVariableShim ops env asps places staged st var mtype).1 =
            if (rc = 0 ∨ rc = 1) ∧ ops.hasData g n mtype then 0 else -1) := by
  refine ⟨?_, fun inv hinv hrun => ?_,
    measureVariableShim_remote_of_unknown ops env asps places staged st var mtype hsel⟩
  · rw [List.countP_eq_length_filter]
    rcases measureVariableShim_remote_sends ops env asps places staged st var mtype hsel with
      h | ⟨_, _, _, _, _, _, _, _, _, _, _, _, _, _, h⟩ <;> simp [h]
  · rcases measureVariableShim_remote_sends ops env asps places staged st var mtype hsel with
      h | ⟨rc, n, g, attester, resource, addr, port, status, output, hadd, hrc, hdata, hget,
        hinfo, h⟩
    · exact absurd (h ▸ List.mem_filter.2 ⟨hinv, hrun⟩) (List.not_mem_nil inv)
    · have hmem := List.mem_filter.2 ⟨hinv, hrun⟩
      rw [h, List.mem_singleton] at hmem
      subst hmem
      refine ⟨rc, n, g, attester, resource, status, output, hadd, hrc, hdata, hget, ?_⟩
      rcases getTargetChannelInfo_eq_some.1 hinfo with ⟨h0, hz⟩ | ⟨ht, hz⟩ <;>
        obtain ⟨rfl, rfl⟩ := Prod.mk.inj_iff.1 hz
      · exact .inl ⟨h0, rfl⟩
      · exact .inr ⟨ht, rfl⟩

end Remote

/-- The spec's end-to-end dispatch of the remote measurement: the channel runs once. -/
theorem app_list_dispatch_sends_once :
    (appListDispatch 0 true emptyShimState blobMeasurementType).2.2.countP
      Invocation.isRunAspBuffers ≤ 1 :=
  (remote_dispatch_sends_once_to_known_place MeasurementGraph.ops (channelEnv 0 true) []
    ⟨⟨"127.0.0.1", "9000"⟩, ⟨"127.0.0.1", "9001"⟩⟩ ⟨"", "", "", "", "", "", "0"⟩ emptyShimState
    ⟨"file", .dynamicMeasurementRequest "@_t" "app-list"⟩ blobMeasurementType rfl).1

/-- A dispatch of `var` with the places, credentials and collaborators of the spec's
end-to-end scenario. -/
def scenarioDispatch (st : ShimState MeasurementGraph) (var : Variable)
    (mtype : MeasurementType) : Int × ShimState MeasurementGraph × List Invocation :=
  measureVariableShim MeasurementGraph.ops (channelEnv 0 true) []
    ⟨⟨"127.0.0.1", "9000"⟩, ⟨"127.0.0.1", "9001"⟩⟩ ⟨"", "", "", "", "", "", "0"⟩ st var mtype

/-- A variable addressed to `@_1`, which names neither place, whose node already holds blob
data: the remote dispatch returns 0, not a failure, and calls nothing. -/
theorem unknown_attester_with_data_returns_zero :
    (scenarioDispatch ⟨⟨[⟨"file", .dynamicMeasurementRequest "@_1" "app-list"⟩],
          [(0, ⟨blobMeasurementType, [0xAA, 0xBB]⟩)], some "graph"⟩, emptyShimState.scen, 0⟩
        ⟨"file", .dynamicMeasurementRequest "@_1" "app-list"⟩ blobMeasurementType).1 = 0 ∧
      (scenarioDispatch ⟨⟨[⟨"file", .dynamicMeasurementRequest "@_1" "app-list"⟩],
          [(0, ⟨blobMeasurementType, [0xAA, 0xBB]⟩)], some "graph"⟩, emptyShimState.scen, 0⟩
        ⟨"file", .dynamicMeasurementRequest "@_1" "app-list"⟩ blobMeasurementType).2.2 = [] := by
  decide

/-! ## What a failed dispatch leaves in the graph -/

section Graph

variable {G : Type} (ops : GraphOps G) (env : DispatchEnv G) (asps : List String)
  (places : Places) (staged : Staged)

/-- A dispatch on the `send_execute_tcp_asp` path leaves the graph as
`measurement_graph_add_node` left it, or as `measurement_node_add_data` left it after
attaching blob data to a node. -/
theorem measureVariableShim_remote_graph (st : ShimState G) (var : Variable)
    (mtype : MeasurementType)
    (hsel : (selectAspShim env asps st.graph mtype var st.mcount).1 = some "send_execute_tcp_asp") :
    (measureVariableShim ops env asps places staged st var mtype).2.1.graph =
        (ops.addNode st.graph var).2.2 ∨
      ∃ n bytes, ops.addData (ops.addNode st.graph var).2.2 n ⟨blobMeasurementType, bytes⟩ =
        ((measureVariableShim ops env asps places staged st var mtype).1,
          (measureVariableShim ops env asps places staged st var mtype).2.1.graph) := by
  rcases ha : (addNodeChecked ops st.graph var mtype).2 with rc | n
  · rw [measureVariableShim_remote_error ops env asps places staged hsel ha]
    exact .inl (addNodeChecked_fst ops st.graph var mtype)
  · rw [measureVariableShim_remote_ok ops env asps places staged hsel ha]
    rcases (remoteMeasure_spec ops env places staged _ _ n).1 with ⟨-, h⟩ | ⟨bytes, h⟩
    · exact .inl (h.trans (addNodeChecked_fst ops st.graph var mtype))
    · exact .inr ⟨n, bytes, by rwa [← addNodeChecked_fst ops st.graph var mtype]⟩

end Graph

section Failed

variable (env : DispatchEnv MeasurementGraph) (asps : List String) (places : Places)
  (staged : Staged)

/-- On the spec's graph, a remote dispatch that fails leaves the graph as adding the variable
left it: no data is attached. -/
theorem failed_remote_dispatch_graph (st : ShimState MeasurementGraph) (var : Variable)
    (mtype : MeasurementType)
    (hsel : (selectAspShim env asps st.graph mtype var st.mcount).1 = some "send_execute_tcp_asp")
    (hfail : (measureVariableShim MeasurementGraph.ops env asps places staged st var mtype).1 ≠ 0) :
    (measureVariableShim MeasurementGraph.ops env asps places staged st var mtype).2.1.graph =
      (st.graph.addNode var).2.2 := by
  rcases measureVariableShim_remote_graph MeasurementGraph.ops env asps places staged st var mtype
    hsel with h | ⟨n, bytes, h⟩
  · exact h
  · simp only [MeasurementGraph.ops, MeasurementGraph.addData] at h
    split_ifs at h
    · exact absurd (Prod.mk.inj h).1.symm hfail
    · exact (Prod.mk.inj h).2.symm

/-- On the spec's graph, a remote dispatch that fails leaves the graph as it was exactly when
the variable already had a node. -/
theorem failed_remote_dispatch_unchanged_iff (st : ShimState MeasurementGraph) (var : Variable)
    (mtype : MeasurementType)
    (hsel : (selectAspShim env asps st.graph mtype var st.mcount).1 = some "send_execute_tcp_asp")
    (hfail : (measureVariableShim MeasurementGraph.ops env asps places staged st var mtype).1 ≠ 0) :
    (measureVariableShim MeasurementGraph.ops env asps places staged st var mtype).2.1.graph =
        st.graph ↔ (findNode st.graph.vars var).isSome := by
  rw [failed_remote_dispatch_graph env asps places staged st var mtype hsel hfail,
    MeasurementGraph.addNode_graph_eq_self_iff]

/-- On the spec's graph, a remote dispatch that fails attaches no data: the graph keeps its
data and path, and gains the variable's node exactly when the variable had none. -/
theorem failed_remote_dispatch_keeps_data_adds_node (st : ShimState MeasurementGraph)
    (var : Variable) (mtype : MeasurementType)
    (hsel : (selectAspShim env asps st.graph mtype var st.mcount).1 = some "send_execute_tcp_asp")
    (hfail : (measureVariableShim MeasurementGraph.ops env asps places staged st var mtype).1 ≠ 0) :
    (measureVariableShim MeasurementGraph.ops env asps places staged st var mtype).2.1.graph.data =
        st.graph.data ∧
      (measureVariableShim MeasurementGraph.ops env asps places staged st var mtype).2.1.graph.path =
        st.graph.path ∧
      (measureVariableShim MeasurementGraph.ops env asps places staged st var mtype).2.1.graph.vars =
        if (findNode st.graph.vars var).isSome then st.graph.vars else st.graph.vars ++ [var] := by
  rw [failed_remote_dispatch_graph env asps places staged st var mtype hsel hfail]
  unfold MeasurementGraph.addNode
  split <;> next h => simp [h]

/-- On the empty graph the channel fails: the dispatch keeps the graph's data and path and
leaves the variable's node behind. -/
theorem failed_app_list_dispatch_adds_node :
    (appListDispatch (-1) true emptyShimState blobMeasurementType).2.1.graph.data =
        emptyShimState.graph.data ∧
      (appListDispatch (-1) true emptyShimState blobMeasurementType).2.1.graph.path =
        emptyShimState.graph.path ∧
      (appListDispatch (-1) true emptyShimState blobMeasurementType).2.1.graph.vars =
        if (findNode emptyShimState.graph.vars
            ⟨"file", .dynamicMeasurementRequest "@_t" "app-list"⟩).isSome then
          emptyShimState.graph.vars
        else emptyShimState.graph.vars ++ [⟨"file", .dynamicMeasurementRequest "@_t" "app-list"⟩] :=
  failed_remote_dispatch_keeps_data_adds_node (channelEnv (-1) true) []
    ⟨⟨"127.0.0.1", "9000"⟩, ⟨"127.0.0.1", "9001"⟩⟩ ⟨"", "", "", "", "", "", "0"⟩ emptyShimState
    ⟨"file", .dynamicMeasurementRequest "@_t" "app-list"⟩ blobMeasurementType rfl (by decide)

/-- The scenario's variable already has its node and the channel fails: the graph is left as
it was. -/
theorem failed_app_list_dispatch_keeps_graph :
    (appListDispatch (-1) true
        ⟨⟨[⟨"file", .dynamicMeasurementRequest "@_t" "app-list"⟩], [], some "graph"⟩,
          emptyShimState.scen, 0⟩ blobMeasurementType).2.1.graph =
        ⟨[⟨"file", .dynamicMeasurementRequest "@_t" "app-list"⟩], [], some "graph"⟩ ↔
      (findNode [⟨"file", .dynamicMeasurementRequest "@_t" "app-list"⟩]
        ⟨"file", .dynamicMeasurementRequest "@_t" "app-list"⟩).isSome :=
  failed_remote_dispatch_unchanged_iff (channelEnv (-1) true) []
    ⟨⟨"127.0.0.1", "9000"⟩, ⟨"127.0.0.1", "9001"⟩⟩ ⟨"", "", "", "", "", "", "0"⟩
    ⟨⟨[⟨"file", .dynamicMeasurementRequest "@_t" "app-list"⟩], [], some "graph"⟩,
      emptyShimState.scen, 0⟩
    ⟨"file", .dynamicMeasurementRequest "@_t" "app-list"⟩ blobMeasurementType rfl (by decide)

end Failed

/-- On the empty graph, a variable whose address is not a measurement request: the dispatch
fails with no call and leaves the variable's new node behind. -/
theorem address_kind_mismatch_adds_node :
    (scenarioDispatch emptyShimState ⟨"file", .other "file"⟩ blobMeasurementType).1 = -1 ∧
      (scenarioDispatch emptyShimState ⟨"file", .other "file"⟩ blobMeasurementType).2.2 = [] ∧
      (scenarioDispatch emptyShimState ⟨"file", .other "file"⟩ blobMeasurementType).2.1.graph =
        ⟨[⟨"file", .other "file"⟩], [], some "graph"⟩ := by
  decide

end Maat.Dispatch
