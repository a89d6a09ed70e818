import Maat.Dispatch.Remote

/-! # The measurement phase

`apb_execute` hands the graph and `measure_variable_shim` to `evaluate_measurement_spec`,
which dispatches one variable at a time. Over a whole phase, whatever the collaborators do,
`*g_scen` ends with the contract and size it began with (`measurePhase_restores_contract`);
every `process_contract` runs right after a call of `send_execute_tcp_asp` that did not
fail, on the contract that call stored, and every such call is followed by one
(`measurePhase_checks_contracts`); the channel is called at most once per request
(`measurePhase_calls_channel_once_per_request`), and only with the staged credentials and the address of
one of the two places (`measurePhase_sends_to_places`). On the spec's graph, with
collaborators that only add to it, the graph only grows, so a variable measured once is
never measured again on the kernel or the remote path (`measured_dispatch_is_noop`).

## Implementation notes

`evaluate_measurement_spec` is not in src/. After the spec (§5) it dispatches the variables
one after another; it may choose each request from the results before it, but every result
here holds for every list of requests, so for whichever it chooses. -/

namespace Maat.Dispatch

/-! ## The calls of one dispatch -/

/-- An argument vector of `invoke_send_execute_tcp` that asks one of the two places for a
resource, with the staged credentials. -/
def ToPlace (places : Places) (staged : Staged) (argv : List String) : Prop :=
  ∃ resource, argv = sendExecuteArgs places.domZ.addr places.domZ.port resource staged ∨
    argv = sendExecuteArgs places.domT.addr places.domT.port resource staged

/-- The calls the remote path makes with the channel ASP `asp`, on argument vectors that
satisfy `ok`: none; the channel call alone, when it failed; or the channel call and then
`process_contract` on what it stored. -/
inductive ChannelCalls (asp : String) (ok : List String → Prop) : List Invocation → Prop
  | none : ChannelCalls asp ok []
  | failed (argv : List String) (status : Int) (output : Bytes) (hargv : ok argv)
      (h : status < 0) : ChannelCalls asp ok [.runAspBuffers asp argv status output]
  | answered (argv : List String) (status : Int) (output : Bytes) (hargv : ok argv)
      (h : 0 ≤ status) :
      ChannelCalls asp ok [.runAspBuffers asp argv status output,
        .processContract (storedContract status output).1 (storedContract status output).2]

/-- The calls one dispatch makes: none, the kernel ASP on a node, `measure_variable_internal`,
or those of the remote path with `send_execute_tcp_asp` to one of the two places. -/
inductive DispatchCalls (places : Places) (staged : Staged) : List Invocation → Prop
  | none : DispatchCalls places staged []
  | kernel (path : Option String) (n : Nat) :
      DispatchCalls places staged [.runAsp "kernel_msmt_asp" path n]
  | internal : DispatchCalls places staged [.measureVariableInternal]
  | remote {calls : List Invocation}
      (h : ChannelCalls "send_execute_tcp_asp" (ToPlace places staged) calls) :
      DispatchCalls places staged calls

section Calls

variable {places : Places} {staged : Staged}

theorem DispatchCalls.countP_le_one {calls : List Invocation}
    (h : DispatchCalls places staged calls) :
    calls.countP Invocation.isRunAspBuffers ≤ 1 := by
  rcases h with _ | _ | _ | (_ | _ | _) <;> simp [Invocation.isRunAspBuffers]

/-- Every channel call of a dispatch goes to one of the two places. -/
theorem DispatchCalls.toPlace {calls : List Invocation} (h : DispatchCalls places staged calls)
    {asp : String} {argv : List String} {status : Int} {output : Bytes}
    (hmem : .runAspBuffers asp argv status output ∈ calls) : ToPlace places staged argv := by
  rcases h with _ | _ | _ | (_ | ⟨_, _, _, hargv⟩ | ⟨_, _, _, hargv⟩) <;> simp_all

end Calls

/-! ## Contracts in a call log -/

/-- How a call log treats contracts: every `process_contract` comes right after a call of
`send_execute_tcp_asp` that did not fail and sees the contract it stored, and every call
with buffers that did not fail is such a call, followed by `process_contract`. -/
structure ContractsChecked (log : List Invocation) : Prop where
  after_channel : ∀ pre c s post, log = pre ++ .processContract c s :: post →
    ∃ pre' argv status output,
      pre = pre' ++ [.runAspBuffers "send_execute_tcp_asp" argv status output] ∧
        0 ≤ status ∧ (c, s) = storedContract status output
  followed : ∀ pre asp argv status output post,
    log = pre ++ .runAspBuffers asp argv status output :: post → 0 ≤ status →
      asp = "send_execute_tcp_asp" ∧ ∃ post', post =
        .processContract (storedContract status output).1 (storedContract status output).2 :: post'

/-- An element of `A ++ B` lies in `B` or strictly inside `A`. -/
theorem append_eq_append_cons_iff {α : Type} {A B pre post : List α} {x : α} :
    A ++ B = pre ++ x :: post ↔
      (∃ a', pre = A ++ a' ∧ B = a' ++ x :: post) ∨ ∃ c', A = pre ++ x :: c' ∧ post = c' ++ B := by
  rw [List.append_eq_append_iff]
  constructor
  · rintro (⟨a', h1, h2⟩ | ⟨_ | ⟨y, c'⟩, h1, h2⟩)
    · exact .inl ⟨a', h1, h2⟩
    · exact .inl ⟨[], by simpa using h1.symm, by simpa using h2.symm⟩
    · obtain ⟨rfl, rfl⟩ := List.cons_eq_cons.1 h2
      exact .inr ⟨c', h1, rfl⟩
  · rintro (⟨a', h1, h2⟩ | ⟨c', h1, h2⟩)
    · exact .inl ⟨a', h1, h2⟩
    · exact .inr ⟨x :: c', h1, by simp [h2]⟩

/-- Logs that treat contracts right can be run one after the other. -/
theorem ContractsChecked.append {A B : List Invocation} (hA : ContractsChecked A)
    (hB : ContractsChecked B) : ContractsChecked (A ++ B) where
  after_channel pre c s post h := by
    rcases append_eq_append_cons_iff.1 h with ⟨a', rfl, hb⟩ | ⟨c', ha, -⟩
    · obtain ⟨pre', argv, status, output, rfl, hs, hc⟩ := hB.after_channel a' c s post hb
      exact ⟨A ++ pre', argv, status, output, by simp, hs, hc⟩
    · exact hA.after_channel pre c s c' ha
  followed pre asp argv status output post h hs := by
    rcases append_eq_append_cons_iff.1 h with ⟨a', -, hb⟩ | ⟨c', ha, rfl⟩
    · exact hB.followed a' asp argv status output post hb hs
    · obtain ⟨hasp, post', rfl⟩ := hA.followed pre asp argv status output c' ha hs
      exact ⟨hasp, post' ++ B, rfl⟩

/-- A log with no `process_contract` and no call with buffers that did not fail. -/
theorem ContractsChecked.of_forall {log : List Invocation}
    (h : ∀ x ∈ log, (∀ c s, x ≠ .processContract c s) ∧
      ∀ asp argv status output, x = .runAspBuffers asp argv status output → status < 0) :
    ContractsChecked log where
  after_channel pre c s post hl := absurd rfl ((h _ (by simp [hl])).1 c s)
  followed pre asp argv status output post hl hs := by
    have := (h _ (by simp [hl])).2 asp argv status output rfl
    omega

/-- A one-call log that is neither `process_contract` nor a call with buffers that did not
fail. -/
theorem ContractsChecked.single {x : Invocation} (hpc : ∀ c s, x ≠ .processContract c s)
    (hch : ∀ asp argv status output, x = .runAspBuffers asp argv status output → status < 0) :
    ContractsChecked [x] :=
  .of_forall fun y hy => by
    obtain rfl := List.mem_singleton.1 hy
    exact ⟨hpc, hch⟩

theorem ChannelCalls.contractsChecked {ok : List String → Prop} {calls : List Invocation}
    (h : ChannelCalls "send_execute_tcp_asp" ok calls) : ContractsChecked calls := by
  cases h with
  | none => exact .of_forall (by simp)
  | failed argv status output _ hs =>
      exact .single (fun _ _ => nofun) fun _ _ _ _ h => by cases h; exact hs
  | answered argv status output _ hs =>
      constructor
      · intro pre c s post h
        rcases pre with _ | ⟨p, _ | ⟨p', pre⟩⟩ <;> simp at h
        obtain ⟨rfl, ⟨rfl, rfl⟩, rfl⟩ := h
        exact ⟨[], argv, status, output, rfl, hs, rfl⟩
      · intro pre asp argv' status' output' post h _
        rcases pre with _ | ⟨p, _ | ⟨p', pre⟩⟩ <;> simp at h
        obtain ⟨⟨rfl, rfl, rfl, rfl⟩, rfl⟩ := h
        exact ⟨rfl, [], rfl⟩

theorem DispatchCalls.contractsChecked {places : Places} {staged : Staged}
    {calls : List Invocation} (h : DispatchCalls places staged calls) :
    ContractsChecked calls := by
  cases h with
  | remote h => exact h.contractsChecked
  | none => exact .of_forall (by simp)
  | kernel path n => exact .single (fun _ _ => nofun) fun _ _ _ _ => nofun
  | internal => exact .single (fun _ _ => nofun) fun _ _ _ _ => nofun

/-! ## One dispatch, and a phase of them -/

section Phase

variable {G : Type} (ops : GraphOps G) (env : DispatchEnv G) (asps : List String)
  (places : Places) (staged : Staged)

/-- What the remote path does to `*g_scen` and which calls it makes: the scenario is left as
it was, or as `verifyContract` leaves it; the calls are those of `ChannelCalls`, to one of
the two places. -/
theorem remoteMeasure_cases (st : ShimState G) (asp : String) (n : Nat) :
    ((remoteMeasure ops env places staged st asp n).2.1.scen = st.scen ∨
        ∃ con, (remoteMeasure ops env places staged st asp n).2.1.scen =
          (verifyContract env st.scen con).scen) ∧
      ChannelCalls asp (ToPlace places staged) (remoteMeasure ops env places staged st asp n).2.2 := by
  unfold remoteMeasure
  split
  · exact ⟨.inl rfl, .none⟩
  · next attester resource _ =>
      split
      · exact ⟨.inl rfl, .none⟩
      · next addr port hplace =>
          have hto : ToPlace places staged (sendExecuteArgs addr port resource staged) := by
            rcases getTargetChannelInfo_eq_some.1 hplace with ⟨-, h⟩ | ⟨-, h⟩ <;>
              simp only [Prod.mk.injEq] at h <;> obtain ⟨rfl, rfl⟩ := h
            exacts [⟨resource, .inl rfl⟩, ⟨resource, .inr rfl⟩]
          dsimp only
          generalize env.runAspBuffers _ = out
          split_ifs with h1
          · exact ⟨.inl rfl, .failed _ _ _ hto h1⟩
          · exact ⟨.inr ⟨_, rfl⟩, .answered _ _ _ hto (by omega)⟩
          · split <;> exact ⟨.inr ⟨_, rfl⟩, .answered _ _ _ hto (by omega)⟩

/-- What one dispatch does to `*g_scen` and which calls it makes. -/
theorem measureVariableShim_cases (st : ShimState G) (var : Variable) (mtype : MeasurementType) :
    ((measureVariableShim ops env asps places staged st var mtype).2.1.scen = st.scen ∨
        ∃ con, (measureVariableShim ops env asps places staged st var mtype).2.1.scen =
          (verifyContract env st.scen con).scen) ∧
      DispatchCalls places staged (measureVariableShim ops env asps places staged st var mtype).2.2 := by
  unfold measureVariableShim
  dsimp only
  split
  · exact ⟨.inl rfl, .none⟩
  · split_ifs with hk hs
    · subst hk
      split
      · exact ⟨.inl rfl, .none⟩
      · exact ⟨.inl rfl, .kernel _ _⟩
    · subst hs
      split
      · exact ⟨.inl rfl, .none⟩
      · exact (remoteMeasure_cases ops env places staged _ _ _).imp id .remote
    · exact ⟨.inl rfl, .internal⟩

/-- Modelled from the spec: `evaluate_measurement_spec` dispatching the requests `reqs` in
order. The state after the phase, and the calls made, in order. -/
def measurePhase (st : ShimState G) :
    List (Variable × MeasurementType) → ShimState G × List Invocation
  | [] => (st, [])
  | (var, mtype) :: reqs =>
      let r := measureVariableShim ops env asps places staged st var mtype
      let rest := measurePhase r.2.1 reqs
      (rest.1, r.2.2 ++ rest.2)

/-- Over any phase `*g_scen` ends with the contract and size it began with. -/
theorem measurePhase_restores_contract (st : ShimState G)
    (reqs : List (Variable × MeasurementType)) :
    (measurePhase ops env asps places staged st reqs).1.scen.contract = st.scen.contract ∧
      (measurePhase ops env asps places staged st reqs).1.scen.size = st.scen.size := by
  induction reqs generalizing st with
  | nil => exact ⟨rfl, rfl⟩
  | cons req reqs ih =>
      obtain ⟨h1, h2⟩ := ih (measureVariableShim ops env asps places staged st req.1 req.2).2.1
      simp only [measurePhase, h1, h2]
      rcases (measureVariableShim_cases ops env asps places staged st req.1 req.2).1 with
        h | ⟨con, h⟩
      · exact ⟨congrArg _ h, congrArg _ h⟩
      · rw [h]
        exact ⟨verifyContract_contract env _ _, verifyContract_size env _ _⟩

/-- Over any phase, `process_contract` runs exactly after the channel calls that did not
fail, each time on the contract that call stored. -/
theorem measurePhase_checks_contracts (st : ShimState G)
    (reqs : List (Variable × MeasurementType)) :
    ContractsChecked (measurePhase ops env asps places staged st reqs).2 := by
  induction reqs generalizing st with
  | nil => exact .of_forall (by simp [measurePhase])
  | cons req reqs ih =>
      exact (measureVariableShim_cases ops env asps places staged st _ _).2.contractsChecked.append
        (ih _)

/-- A phase calls the channel ASP at most once per request: its calls are, in order, those
of one dispatch of each request, and each makes at most one channel call, so a failed
request is not retried. -/
theorem measurePhase_calls_channel_once_per_request (st : ShimState G)
    (reqs : List (Variable × MeasurementType)) :
    ∃ logs : List (List Invocation),
      List.Forall₂ (fun req log =>
          (∃ st', log = (measureVariableShim ops env asps places staged st' req.1 req.2).2.2) ∧
            log.countP Invocation.isRunAspBuffers ≤ 1) reqs logs ∧
        (measurePhase ops env asps places staged st reqs).2 = logs.flatten := by
  induction reqs generalizing st with
  | nil => exact ⟨[], .nil, rfl⟩
  | cons req reqs ih =>
      obtain ⟨logs, hlogs, heq⟩ := ih (measureVariableShim ops env asps places staged st req.1 req.2).2.1
      refine ⟨_ :: logs, .cons ⟨⟨st, rfl⟩, ?_⟩ hlogs, ?_⟩
      · exact (measureVariableShim_cases ops env asps places staged st req.1 req.2).2.countP_le_one
      · rw [List.flatten_cons, ← heq]
        rfl

/-- A phase sends the staged credentials only to the two places: every channel call asks
`@_0`'s or `@_t`'s address and port for a resource. -/
theorem measurePhase_sends_to_places (st : ShimState G)
    (reqs : List (Variable × MeasurementType)) {asp : String} {argv : List String}
    {status : Int} {output : Bytes}
    (hmem : .runAspBuffers asp argv status output ∈ (measurePhase ops env asps places staged st reqs).2) :
    ToPlace places staged argv := by
  induction reqs generalizing st with
  | nil => simp [measurePhase] at hmem
  | cons req reqs ih =>
      rcases List.mem_append.1 hmem with h | h
      · exact (measureVariableShim_cases ops env asps places staged st _ _).2.toPlace h
      · exact ih _ h

/-- The spec's end-to-end scenario as a phase of one request: its channel call asks
"@_t" at 127.0.0.1:9001 for "app-list". -/
theorem app_list_phase_sends_to_target :
    ToPlace ⟨⟨"127.0.0.1", "9000"⟩, ⟨"127.0.0.1", "9001"⟩⟩ ⟨"", "", "", "", "", "", "0"⟩
      ["127.0.0.1", "9001", "app-list", "", "", "", "", "", "", "0"] :=
  @measurePhase_sends_to_places _ MeasurementGraph.ops (channelEnv 0 true) []
    ⟨⟨"127.0.0.1", "9000"⟩, ⟨"127.0.0.1", "9001"⟩⟩ ⟨"", "", "", "", "", "", "0"⟩ emptyShimState
    [(⟨"file", .dynamicMeasurementRequest "@_t" "app-list"⟩, blobMeasurementType)]
    "send_execute_tcp_asp" _ 0 [1, 2, 3] (by decide)

/-- On the kernel and the remote path, a dispatch of a variable whose node holds data of the
type asked for returns 0, runs nothing and changes nothing but `mcount`. -/
theorem measureVariableShim_of_hasData {st : ShimState G} {var : Variable}
    {mtype : MeasurementType} {n : Nat} (hadd : ops.addNode st.graph var = (1, n, st.graph))
    (hd : ops.hasData st.graph n mtype = true)
    (hsel : (selectAspShim env asps st.graph mtype var st.mcount).1 = some "kernel_msmt_asp" ∨
      (selectAspShim env asps st.graph mtype var st.mcount).1 = some "send_execute_tcp_asp") :
    measureVariableShim ops env asps places staged st var mtype =
      (0, { st with mcount := (selectAspShim env asps st.graph mtype var st.mcount).2 }, []) := by
  have ha : addNodeChecked ops st.graph var mtype = (st.graph, .error 0) := by
    simp [addNodeChecked, hadd, hd]
  unfold measureVariableShim
  rcases hsel with h | h <;> simp [h, ha]

end Phase

/-! ## The graph over a phase -/

/-- The collaborators that write the graph, the kernel ASP and `measure_variable_internal`,
only add nodes and data to it. -/
structure DispatchEnv.OnlyAdds (env : DispatchEnv MeasurementGraph) : Prop where
  runAsp_extends : ∀ (g : MeasurementGraph) asp path n, g.Extends (env.runAsp g asp path n).2
  measureVariableInternal_extends : ∀ (g : MeasurementGraph) var mtype m,
    g.Extends (env.measureVariableInternal g var mtype m).2.1

theorem channelEnv_onlyAdds (status : Int) (accept : Bool) : (channelEnv status accept).OnlyAdds :=
  ⟨fun g _ _ _ => .refl g, fun g _ _ _ => .refl g⟩

section Growth

variable (env : DispatchEnv MeasurementGraph) (asps : List String) (places : Places)
  (staged : Staged)

theorem measureVariableShim_extends (henv : env.OnlyAdds) (st : ShimState MeasurementGraph)
    (var : Variable) (mtype : MeasurementType) :
    st.graph.Extends
      (measureVariableShim MeasurementGraph.ops env asps places staged st var mtype).2.1.graph := by
  have hadd := MeasurementGraph.extends_addNode st.graph var
  unfold measureVariableShim
  dsimp only
  split
  · exact .refl _
  · split_ifs
    · split
      · exact hadd
      · exact hadd.trans (henv.runAsp_extends _ _ _ _)
    · split
      · exact hadd
      · next n _ =>
          rcases (remoteMeasure_spec MeasurementGraph.ops env places staged _ _ n).1 with
            ⟨-, h⟩ | ⟨bytes, h⟩
          · rw [h]
            exact hadd
          · have h2 := congrArg Prod.snd h
            dsimp only at h2
            rw [← h2]
            exact hadd.trans (MeasurementGraph.extends_addData _ _ _)
    · exact henv.measureVariableInternal_extends _ _ _ _

theorem measurePhase_extends (henv : env.OnlyAdds) (st : ShimState MeasurementGraph)
    (reqs : List (Variable × MeasurementType)) :
    st.graph.Extends (measurePhase MeasurementGraph.ops env asps places staged st reqs).1.graph := by
  induction reqs generalizing st with
  | nil => exact .refl _
  | cons req reqs ih =>
      exact (measureVariableShim_extends env asps places staged henv st req.1 req.2).trans (ih _)

/-- Once a variable's node holds data of a type, a dispatch of it for that type at any later
point of the phase that selects the kernel or the remote path returns 0, runs nothing and
changes nothing but `mcount`. -/
theorem measured_dispatch_is_noop (henv : env.OnlyAdds) {st st' : ShimState MeasurementGraph}
    {reqs : List (Variable × MeasurementType)}
    (hst : (measurePhase MeasurementGraph.ops env asps places staged st reqs).1 = st')
    {var : Variable} {mtype : MeasurementType} {n : Nat}
    (hn : findNode st.graph.vars var = some n) (hd : st.graph.hasData n mtype = true)
    (hsel : (selectAspShim env asps st'.graph mtype var st'.mcount).1 = some "kernel_msmt_asp" ∨
      (selectAspShim env asps st'.graph mtype var st'.mcount).1 = some "send_execute_tcp_asp") :
    measureVariableShim MeasurementGraph.ops env asps places staged st' var mtype =
      (0, { st' with mcount := (selectAspShim env asps st'.graph mtype var st'.mcount).2 }, []) := by
  have hext := hst ▸ measurePhase_extends env asps places staged henv st reqs
  refine measureVariableShim_of_hasData _ _ _ _ _ ?_ (hext.hasData hd) hsel
  simp [MeasurementGraph.ops, MeasurementGraph.addNode, hext.findNode hn]

end Growth

/-- The scenario's variable with its blob 0xAA, 0xBB attached, then a phase that measures
another variable at "@_0": dispatching the scenario's variable again makes no call. -/
theorem app_list_dispatch_after_phase_runs_nothing :
    (appListDispatch 0 true
        (measurePhase MeasurementGraph.ops (channelEnv 0 true) []
          ⟨⟨"127.0.0.1", "9000"⟩, ⟨"127.0.0.1", "9001"⟩⟩ ⟨"", "", "", "", "", "", "0"⟩
          ⟨⟨[⟨"file", .dynamicMeasurementRequest "@_t" "app-list"⟩],
            [(0, ⟨blobMeasurementType, [0xAA, 0xBB]⟩)], some "graph"⟩, emptyShimState.scen, 0⟩
          [(⟨"file", .dynamicMeasurementRequest "@_0" "bios"⟩, blobMeasurementType)]).1
        blobMeasurementType).2.2 = [] :=
  congrArg (·.2.2) (measured_dispatch_is_noop (channelEnv 0 true) []
    ⟨⟨"127.0.0.1", "9000"⟩, ⟨"127.0.0.1", "9001"⟩⟩ ⟨"", "", "", "", "", "", "0"⟩
    (channelEnv_onlyAdds 0 true) rfl (n := 0) (by decide) (by decide) (.inr (by rfl)))

end Maat.Dispatch
