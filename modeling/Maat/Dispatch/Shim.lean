import Maat.Dispatch.Graph

/-! # The measurement dispatcher

`measure_variable_shim` is the callback the measurement-spec engine calls for each
variable. It selects an ASP and takes one of three paths: `kernel_msmt_asp` measures the
graph's node directly; `send_execute_tcp_asp` asks a remote attester and verifies the
contract it returns under `*g_scen`, whose contract buffer it swaps in and restores; any
other ASP is left to `measure_variable_internal`.

## Implementation notes

`alloc_measurement_data` is taken to succeed: the code does not check it, and a NULL there
ends the process inside `process_contract`. -/

namespace Maat.Dispatch

/-- What the dispatcher's other collaborators do, on graphs of type `G`. -/
structure DispatchEnv (G : Type) where
  /-- `select_asp(g, mtype, var, apb_asps, &mcount)`: the ASP's name and the new count. -/
  selectAsp : G → MeasurementType → Variable → Nat → Option String × Nat
  /-- `run_asp(asp, ...)` with the graph path and the node id, which may write the graph. -/
  runAsp : G → String → Option String → Nat → Int × G
  /-- `run_asp_buffers(send_execute_tcp_asp, ..., argv, ...)`: its status and output. -/
  runAspBuffers : List String → Int × Bytes
  /-- `process_contract(apb_asps, g_scen, ...)`: its status, the payload it extracted, and
  the scenario as it leaves it. -/
  processContract : Scenario → Int × Bytes × Scenario
  /-- `marshall_measurement_data` of data of a type: its serialized bytes; `none` is NULL. -/
  marshallMeasurementData : MeasurementType → Bytes → Option Bytes
  /-- `measure_variable_internal(...)`: its result, the graph and `mcount`. -/
  measureVariableInternal : G → Variable → MeasurementType → Nat → Int × G × Nat

/-- What the dispatcher reads and writes besides its arguments: the graph, `*g_scen` and
`mcount`. -/
structure ShimState (G : Type) where
  graph : G
  scen : Scenario
  mcount : Nat

/-- A collaborator call that runs an ASP or verifies a contract. -/
inductive Invocation
  /-- `run_asp(asp, ...)` with the graph path and the node id. -/
  | runAsp (asp : String) (graphPath : Option String) (node : Nat)
  /-- `run_asp_buffers(asp, ..., argv, ...)`, which returned `status` and `output`. -/
  | runAspBuffers (asp : String) (argv : List String) (status : Int) (output : Bytes)
  /-- `process_contract`, seeing `g_scen->contract` and `g_scen->size`. -/
  | processContract (contract : Option Bytes) (size : Nat)
  /-- `measure_variable_internal(...)`. -/
  | measureVariableInternal
  deriving DecidableEq, Repr

/-- `get_target_channel_info`: the addr and port of the place the attester names. -/
def getTargetChannelInfo (places : Places) (attester : String) : Option (String × String) :=
  if attester = "@_0" then some (places.domZ.addr, places.domZ.port)
  else if attester = "@_t" then some (places.domT.addr, places.domT.port)
  else none

/-- `get_target_channel_info` finds a place exactly for `@_0` and `@_t`. -/
theorem getTargetChannelInfo_eq_some {places : Places} {attester : String}
    {ap : String × String} :
    getTargetChannelInfo places attester = some ap ↔
      attester = "@_0" ∧ ap = (places.domZ.addr, places.domZ.port) ∨
        attester = "@_t" ∧ ap = (places.domT.addr, places.domT.port) := by
  unfold getTargetChannelInfo
  split_ifs with h0 ht
  · subst h0; simp [eq_comm]
  · subst ht; simp [eq_comm]
  · simp [h0, ht]

/-- The argument vector of `invoke_send_execute_tcp`, lines 135-144. -/
def sendExecuteArgs (addr port resource : String) (g : Staged) : List String :=
  [addr, port, resource, g.certfile, g.keyfile, g.keypass, g.nonce, g.tpmpass, g.akctx,
    g.signTpm]

/-- What `invoke_send_execute_tcp` leaves in the caller's `contract` and `con_len`: the
ASP's output and its length when the status is 0, otherwise their initial NULL and 0. -/
def storedContract (status : Int) (output : Bytes) : Option Bytes × Nat :=
  if status = 0 then (some output, output.length) else (none, 0)

/-- `g_scen->contract = contract; g_scen->size = con_len;` -/
def installContract (scen : Scenario) (con : Option Bytes × Nat) : Scenario :=
  { scen with contract := con.1, size := con.2 }

section Shim

variable {G : Type} (ops : GraphOps G) (env : DispatchEnv G) (asps : List String)
  (places : Places) (staged : Staged)

/-- `select_asp_shim`: the kernel type always gets `kernel_msmt_asp` from the APB's list,
any other type goes to `select_asp`. -/
def selectAspShim (g : G) (mtype : MeasurementType) (var : Variable) (mcount : Nat) :
    Option String × Nat :=
  if mtype = kernelMeasurementType then
    (if "kernel_msmt_asp" ∈ asps then some "kernel_msmt_asp" else none, mcount)
  else env.selectAsp g mtype var mcount

/-- Lines 206-217, repeated at 231-242: add or find the variable's node. The call stops
there with -1 when the insertion failed and with 0 when the node already holds data of
`mtype`; otherwise it goes on with the node. -/
def addNodeChecked (g : G) (var : Variable) (mtype : MeasurementType) : G × Except Int Nat :=
  let r := ops.addNode g var
  (r.2.2, if r.1 = 0 ∨ r.1 = 1 then
      (if ops.hasData r.2.2 r.2.1 mtype then .error 0 else .ok r.2.1)
    else .error (-1))

@[simp] theorem addNodeChecked_fst (g : G) (var : Variable) (mtype : MeasurementType) :
    (addNodeChecked ops g var mtype).1 = (ops.addNode g var).2.2 := rfl

/-- `addNodeChecked` goes on exactly when the insertion succeeded and the node it returned
holds no data of `mtype`. -/
theorem addNodeChecked_ok_iff {g : G} {var : Variable} {mtype : MeasurementType} {n : Nat} :
    (addNodeChecked ops g var mtype).2 = .ok n ↔
      ((ops.addNode g var).1 = 0 ∨ (ops.addNode g var).1 = 1) ∧ (ops.addNode g var).2.1 = n ∧
        ops.hasData (ops.addNode g var).2.2 (ops.addNode g var).2.1 mtype = false := by
  unfold addNodeChecked
  dsimp only
  split_ifs <;> simp_all

/-- `get_measurement_request_addr_from_node`: the attester and resource of the node's
address, -EIO when it has none and -EINVAL when it is of another kind. -/
def getMeasurementRequestAddrFromNode (g : G) (n : Nat) : Except Int (String × String) :=
  match ops.getAddress g n with
  | none => .error (-eio)
  | some (.dynamicMeasurementRequest attester resource) => .ok (attester, resource)
  | some (.other _) => .error (-einval)

theorem getMeasurementRequestAddrFromNode_ok {g : G} {n : Nat} {attester resource : String} :
    getMeasurementRequestAddrFromNode ops g n = .ok (attester, resource) ↔
      ops.getAddress g n = some (.dynamicMeasurementRequest attester resource) := by
  unfold getMeasurementRequestAddrFromNode
  split <;> simp_all

/-- `process_contract(apb_asps, scen, ...)`: what it returns, with the call as the log
records it, made from the scenario it was handed. -/
def processContractCall (scen : Scenario) : (Int × Bytes × Scenario) × Invocation :=
  (env.processContract scen, .processContract scen.contract scen.size)

/-- What verifying a received contract hands back: `process_contract`'s result and payload,
the scenario with its own contract and size put back, and the `process_contract` call. -/
structure Verified where
  rc : Int
  payload : Bytes
  scen : Scenario
  call : Invocation

/-- Lines 273-288: install the received contract in the scenario, run `process_contract` on
it, and put the scenario's own contract and size back whatever it returned. -/
def verifyContract (scen : Scenario) (con : Option Bytes × Nat) : Verified :=
  let c := processContractCall env (installContract scen con)
  ⟨c.1.1, c.1.2.1, { c.1.2.2 with contract := scen.contract, size := scen.size }, c.2⟩

/-- Lines 245-307, once the node `n` is known: resolve the request address and the
attester's place, call the attester, verify the contract, and attach its payload to the
node as blob data. When marshalling fails the code calls
`free_measurement_data(&md->meas_data)` on the NULL `md` (line 299), which is undefined;
the model goes on to the -1 of the next line. -/
def remoteMeasure (st : ShimState G) (asp : String) (n : Nat) :
    Int × ShimState G × List Invocation :=
  match getMeasurementRequestAddrFromNode ops st.graph n with
  | .error _ => (-1, st, [])
  | .ok (attester, resource) =>
      match getTargetChannelInfo places attester with
      | none => (-1, st, [])
      | some (addr, port) =>
          let argv := sendExecuteArgs addr port resource staged
          let out := env.runAspBuffers argv
          let sent := Invocation.runAspBuffers asp argv out.1 out.2
          if out.1 < 0 then (-1, st, [sent])
          else
            let v := verifyContract env st.scen (storedContract out.1 out.2)
            let calls := [sent, v.call]
            if v.rc < 0 then (-1, { st with scen := v.scen }, calls)
            else
              match env.marshallMeasurementData blobMeasurementType v.payload with
              | none => (-1, { st with scen := v.scen }, calls)
              | some bytes =>
                  let w := ops.addData st.graph n ⟨blobMeasurementType, bytes⟩
                  (w.1, { st with graph := w.2, scen := v.scen }, calls)

/-- `measure_variable_shim(g, var, mtype)`: its return value, the state it leaves, and
the ASP runs and contract checks it made. -/
def measureVariableShim (st : ShimState G) (var : Variable) (mtype : MeasurementType) :
    Int × ShimState G × List Invocation :=
  let sel := selectAspShim env asps st.graph mtype var st.mcount
  let st := { st with mcount := sel.2 }
  match sel.1 with
  | none => (-enoent, st, [])
  | some asp =>
      if asp = "kernel_msmt_asp" then
        let a := addNodeChecked ops st.graph var mtype
        match a.2 with
        | .error rc => (rc, { st with graph := a.1 }, [])
        | .ok n =>
            let path := ops.getPath a.1
            let r := env.runAsp a.1 asp path n
            (r.1, { st with graph := r.2 }, [.runAsp asp path n])
      else if asp = "send_execute_tcp_asp" then
        let a := addNodeChecked ops st.graph var mtype
        match a.2 with
        | .error rc => (rc, { st with graph := a.1 }, [])
        | .ok n => remoteMeasure ops env places staged { st with graph := a.1 } asp n
      else
        let r := env.measureVariableInternal st.graph var mtype st.mcount
        (r.1, { st with graph := r.2.1, mcount := r.2.2 }, [.measureVariableInternal])

/-- On the `send_execute_tcp_asp` path, a dispatch that `addNodeChecked` stops returns its
code, with the graph it left. -/
theorem measureVariableShim_remote_error {st : ShimState G} {var : Variable}
    {mtype : MeasurementType} {rc : Int}
    (hsel : (selectAspShim env asps st.graph mtype var st.mcount).1 = some "send_execute_tcp_asp")
    (ha : (addNodeChecked ops st.graph var mtype).2 = .error rc) :
    measureVariableShim ops env asps places staged st var mtype =
      (rc, { st with
              graph := (addNodeChecked ops st.graph var mtype).1
              mcount := (selectAspShim env asps st.graph mtype var st.mcount).2 }, []) := by
  unfold measureVariableShim
  simp only [hsel, show ("send_execute_tcp_asp" : String) ≠ "kernel_msmt_asp" by decide,
    if_false, if_true, ha]

/-- On the `send_execute_tcp_asp` path, a dispatch that goes on with the node `n` is the
remote path on it. -/
theorem measureVariableShim_remote_ok {st : ShimState G} {var : Variable}
    {mtype : MeasurementType} {n : Nat}
    (hsel : (selectAspShim env asps st.graph mtype var st.mcount).1 = some "send_execute_tcp_asp")
    (ha : (addNodeChecked ops st.graph var mtype).2 = .ok n) :
    measureVariableShim ops env asps places staged st var mtype =
      remoteMeasure ops env places staged
        { st with
          graph := (addNodeChecked ops st.graph var mtype).1
          mcount := (selectAspShim env asps st.graph mtype var st.mcount).2 }
        "send_execute_tcp_asp" n := by
  unfold measureVariableShim
  simp only [hsel, show ("send_execute_tcp_asp" : String) ≠ "kernel_msmt_asp" by decide,
    if_false, if_true, ha]

@[simp] theorem verifyContract_contract (scen : Scenario) (con : Option Bytes × Nat) :
    (verifyContract env scen con).scen.contract = scen.contract := rfl

@[simp] theorem verifyContract_size (scen : Scenario) (con : Option Bytes × Nat) :
    (verifyContract env scen con).scen.size = scen.size := rfl

/-- `process_contract` is called on the scenario holding the contract and size installed. -/
@[simp] theorem verifyContract_call (scen : Scenario) (con : Option Bytes × Nat) :
    (verifyContract env scen con).call = .processContract con.1 con.2 := rfl

/-- Every `process_contract` among `calls` comes right after the call of the channel ASP
`asp` and sees the contract and size that `invoke_send_execute_tcp` stored. -/
def ContractSeen (asp : String) (calls : List Invocation) : Prop :=
  ∀ c s, Invocation.processContract c s ∈ calls → ∃ argv status output,
    calls = [.runAspBuffers asp argv status output, .processContract c s] ∧
      (c, s) = storedContract status output

theorem contractSeen_pair (asp : String) (argv : List String) (status : Int) (output : Bytes) :
    ContractSeen asp [.runAspBuffers asp argv status output,
      .processContract (storedContract status output).1 (storedContract status output).2] := by
  intro c s h
  simp only [List.mem_cons, reduceCtorEq, Invocation.processContract.injEq, List.mem_singleton,
    List.not_mem_nil, or_false, false_or] at h
  obtain ⟨rfl, rfl⟩ := h
  exact ⟨argv, status, output, rfl, rfl⟩

/-- After a `process_contract` on the contract `c` of size `s` among `calls`, the scenario
left is the one `process_contract` returned when handed `scen` with `c` and `s` installed,
with the scenario's own contract and size put back. -/
def VerifierScenario (scen : Scenario) (calls : List Invocation) (scen' : Scenario) : Prop :=
  ∀ c s, Invocation.processContract c s ∈ calls →
    scen' = { (env.processContract { scen with contract := c, size := s }).2.2 with
      contract := scen.contract, size := scen.size }

theorem verifierScenario_pair (scen : Scenario) (asp : String) (argv : List String)
    (status : Int) (output : Bytes) (con : Option Bytes × Nat) :
    VerifierScenario env scen
      [.runAspBuffers asp argv status output, (verifyContract env scen con).call]
      (verifyContract env scen con).scen := by
  intro c s h
  simp only [verifyContract_call, List.mem_cons, reduceCtorEq, Invocation.processContract.injEq,
    List.mem_singleton, List.not_mem_nil, or_false, false_or] at h
  obtain ⟨rfl, rfl⟩ := h
  rfl

/-- What the remote path can do: fail with -1 and leave the graph as it was, or attach blob
data to the node and return what `measurement_node_add_data` returned. On every exit
`*g_scen`'s contract and size are as it found them, and `process_contract` saw them set to
what `invoke_send_execute_tcp` stored; the scenario left after it is the one it returned. -/
theorem remoteMeasure_spec (st : ShimState G) (asp : String) (n : Nat) :
    (((remoteMeasure ops env places staged st asp n).1 = -1 ∧
        (remoteMeasure ops env places staged st asp n).2.1.graph = st.graph) ∨
      ∃ bytes, ops.addData st.graph n ⟨blobMeasurementType, bytes⟩ =
        ((remoteMeasure ops env places staged st asp n).1,
          (remoteMeasure ops env places staged st asp n).2.1.graph)) ∧
      (remoteMeasure ops env places staged st asp n).2.1.scen.contract = st.scen.contract ∧
      (remoteMeasure ops env places staged st asp n).2.1.scen.size = st.scen.size ∧
      ContractSeen asp (remoteMeasure ops env places staged st asp n).2.2 ∧
      VerifierScenario env st.scen (remoteMeasure ops env places staged st asp n).2.2
        (remoteMeasure ops env places staged st asp n).2.1.scen := by
  have hnil : ContractSeen asp [] ∧ VerifierScenario env st.scen [] st.scen :=
    ⟨(fun _ _ h => nomatch h), fun _ _ h => nomatch h⟩
  unfold remoteMeasure
  split
  · exact ⟨.inl ⟨rfl, rfl⟩, rfl, rfl, hnil⟩
  · next attester resource _ =>
      split
      · exact ⟨.inl ⟨rfl, rfl⟩, rfl, rfl, hnil⟩
      · next addr port _ =>
          dsimp only
          generalize env.runAspBuffers _ = out
          have hseen :=
            contractSeen_pair asp (sendExecuteArgs addr port resource staged) out.1 out.2
          have hver := verifierScenario_pair env st.scen asp
            (sendExecuteArgs addr port resource staged) out.1 out.2 (storedContract out.1 out.2)
          have hone : ∀ c s, Invocation.processContract c s ∉
              [.runAspBuffers asp (sendExecuteArgs addr port resource staged) out.1 out.2] := by
            simp
          split_ifs
          · exact ⟨.inl ⟨rfl, rfl⟩, rfl, rfl, (fun c s h => absurd h (hone c s)),
              fun c s h => absurd h (hone c s)⟩
          · exact ⟨.inl ⟨rfl, rfl⟩, rfl, rfl, hseen, hver⟩
          · split
            · exact ⟨.inl ⟨rfl, rfl⟩, rfl, rfl, hseen, hver⟩
            · next bytes _ => exact ⟨.inr ⟨bytes, rfl⟩, rfl, rfl, hseen, hver⟩

/-- The collaborators of the spec's end-to-end scenario: the engine selects
`send_execute_tcp_asp`, the channel answers `status` with the bytes 1, 2, 3, and
`process_contract` extracts 0xAA, 0xBB when `accept` holds and fails otherwise. -/
def channelEnv (status : Int) (accept : Bool) : DispatchEnv MeasurementGraph where
  selectAsp _ _ _ m := (some "send_execute_tcp_asp", m)
  runAsp g _ _ _ := (0, g)
  runAspBuffers _ := (status, [1, 2, 3])
  processContract sc := (if accept then 0 else -1, [0xAA, 0xBB], sc)
  marshallMeasurementData _ b := some b
  measureVariableInternal g _ _ m := (0, g, m)

/-- A dispatch of that scenario's variable, resource "app-list" at "@_t", with places
"@_0" at 127.0.0.1:9000 and "@_t" at 127.0.0.1:9001 and empty credentials. -/
def appListDispatch (status : Int) (accept : Bool) (st : ShimState MeasurementGraph)
    (mtype : MeasurementType) : Int × ShimState MeasurementGraph × List Invocation :=
  measureVariableShim MeasurementGraph.ops (channelEnv status accept) []
    ⟨⟨"127.0.0.1", "9000"⟩, ⟨"127.0.0.1", "9001"⟩⟩ ⟨"", "", "", "", "", "", "0"⟩ st
    ⟨"file", .dynamicMeasurementRequest "@_t" "app-list"⟩ mtype

/-- An empty graph, and a scenario whose own contract is the bytes 7, 7. -/
def emptyShimState : ShimState MeasurementGraph :=
  ⟨⟨[], [], some "graph"⟩, ⟨none, none, none, none, none, none, false, none, none, some [7, 7], 2⟩, 0⟩

/-- A channel status of 1 stores nothing, yet `process_contract` runs, on a NULL contract
of size 0. -/
theorem process_contract_runs_after_channel_status_1 :
    (appListDispatch 1 false emptyShimState blobMeasurementType).2.2 =
      [.runAspBuffers "send_execute_tcp_asp"
        ["127.0.0.1", "9001", "app-list", "", "", "", "", "", "", "0"] 1 [1, 2, 3],
        .processContract none 0] := by
  decide

end Shim

end Maat.Dispatch
