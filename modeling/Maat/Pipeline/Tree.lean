import Maat.Pipeline.SignSend
import Mathlib.Data.List.Infix

/-! # Shape of the pipeline's process tree

Every process the chain forks ends in `exit`; only the original process returns into
`apb_execute`. Send runs in one process at most, forked by the spawns of all the chain's
stages, and every call path is a prefix of the chain's calls, which fixes the arguments
each stage receives. -/

namespace Maat.Pipeline

/-- The calls of the whole chain, in order, down to create-contract. -/
def chainCalls (path workdir : String) (g : Staged) (scen : Scenario) (env : PipelineEnv) :
    List Call :=
  serializeCall path :: compressCall ::
    (((dupIfSet scen.partnerCert env.partnerCertDup).map encryptCall).toList ++
      [createConCall g workdir (encArgs (if encrypts scen env then "1" else "0"))])

theorem serializeLadder_of_ne_zero {r : Int} (h : r ≠ 0) (child : Run) :
    serializeLadder r child = .ret r := by
  unfold serializeLadder; split_ifs <;> simp_all

/-- The root of the tree: the caller returns whatever the serialize spawn gave it. -/
theorem fork_serializeLadder_eq (s : Spawn) (c : Call) (child : Run) :
    fork s c (serializeLadder · child) =
      match s with
      | .failed => .spawnFailed c (.ret (-2))
      | .launched _ _ => .spawned c child (.ret (forkAndBufferAsyncAsp s child.ending.code)) := by
  cases s with
  | failed => rfl
  | launched aspOk pid =>
      simp only [fork, serializeLadder_of_ne_zero (forkAndBufferAsyncAsp_ne_zero _ _)]
      rfl

section Shape

variable (env : PipelineEnv) (g : Staged) (scen : Scenario) (workdir : String)

theorem compressLevel_allExit : (compressLevel env g scen workdir).AllExit := by
  have hk : ∀ args, (createConLevel env g workdir args).AllExit := fun args =>
    fork_afterSpawn_allExit _ _ _ <| by
      unfold sendLeaf; split_ifs <;> exact ⟨rfl, by simp [Run.forkedEndings]⟩
  apply fork_afterSpawn_allExit
  unfold encryptLevel
  split
  · exact fork_afterSpawn_allExit _ _ _ (hk _)
  · exact hk _

theorem stages_tail :
    (stages scen env).tail =
      .compress :: if encrypts scen env then [.encrypt, .createCon] else [.createCon] := by
  unfold stages; split <;> rfl

theorem compressLevel_sendsAlong :
    SendsAlong env.spawn (compressLevel env g scen workdir) (stages scen env).tail := by
  have hk : ∀ args, SendsAlong env.spawn (createConLevel env g workdir args) [.createCon] :=
    fun args => fork_afterSpawn_sendsAlong (c := createConCall g workdir args) <| by
      simp [SendsAlong, sendLeaf, Run.sendPaths]; split_ifs <;> simp [Run.sendPaths]
  rw [stages_tail]
  apply fork_afterSpawn_sendsAlong (c := compressCall)
  unfold encryptLevel encrypts
  split
  · next cert h =>
      simp only [h, Option.isSome_some, if_true]
      exact fork_afterSpawn_sendsAlong (c := encryptCall cert) (hk _)
  · next h =>
      simp only [h, Option.isSome_none]
      exact hk _

theorem compressLevel_prefixesOf (path : String) :
    PrefixesOf (compressLevel env g scen workdir) (chainCalls path workdir g scen env).tail := by
  have hk : ∀ args, PrefixesOf (createConLevel env g workdir args) [createConCall g workdir args] :=
    fun args => fork_afterSpawn_prefixesOf <| by
      unfold sendLeaf; split_ifs <;> simp [PrefixesOf, Run.callPaths]
  unfold chainCalls
  apply fork_afterSpawn_prefixesOf
  unfold encryptLevel encrypts
  split
  · next cert h =>
      simp only [h, Option.map_some', Option.toList_some, Option.isSome_some, if_true,
        List.singleton_append]
      exact fork_afterSpawn_prefixesOf (hk _)
  · next h =>
      simp only [h, Option.map_none', Option.toList_none, Option.isSome_none, List.nil_append]
      exact hk _

/-- Only the original process returns from `execute_sign_send_pipeline`; every process it
forks ends in `exit`, and send runs in one process at most, forked by the spawns of all the
chain's stages, none of which failed. -/
theorem executeSignSendPipeline_process_tree (asps : List String) :
    (∃ v, (executeSignSendPipeline asps g scen env).ending = .returns v) ∧
      (∀ e ∈ (executeSignSendPipeline asps g scen env).forkedEndings, e.isExit) ∧
      SendsAlong env.spawn (executeSignSendPipeline asps g scen env) (stages scen env) := by
  refine ⟨⟨_, executeSignSendPipeline_ending env g scen asps⟩, ?_⟩
  have hret : ∀ v, (∀ e ∈ (Run.ret v).forkedEndings, e.isExit) ∧
      SendsAlong env.spawn (.ret v) (stages scen env) := by
    simp [SendsAlong, Run.forkedEndings, Run.sendPaths]
  unfold executeSignSendPipeline
  split
  · exact hret _
  · next workdir _ =>
      split_ifs
      · split
        · exact hret _
        · rw [fork_serializeLadder_eq]
          cases hs : env.spawn .serialize with
          | failed => simp [SendsAlong, Run.forkedEndings, Run.sendPaths]
          | launched aspOk pid =>
              obtain ⟨h1, h2⟩ := compressLevel_allExit env g scen workdir
              refine ⟨by simpa [Run.forkedEndings] using And.intro h1 h2, ?_⟩
              rw [show stages scen env = .serialize :: (stages scen env).tail by
                rw [stages]; split <;> rfl]
              exact sendsAlong_of_map_cons (compressLevel_sendsAlong env g scen workdir)
                (by simp [hs]) (by simp [Run.sendPaths, serializeCall])
      · exact hret _

/-- Every call path of the tree is a non-empty prefix of the chain's calls. -/
theorem executeSignSendPipeline_callPaths (asps : List String) {p : List Call}
    (hp : p ∈ (executeSignSendPipeline asps g scen env).callPaths) :
    ∃ path workdir, env.graphPath = some path ∧
      dupIfSet scen.workdir env.workdirDup = some workdir ∧
      p ≠ [] ∧ p <+: chainCalls path workdir g scen env := by
  unfold executeSignSendPipeline at hp
  split at hp
  · simp [Run.callPaths] at hp
  · next workdir hw =>
      split_ifs at hp
      · split at hp
        · simp [Run.callPaths] at hp
        · next path hpath =>
            have hpre := fork_afterSpawn_prefixesOf (s := env.spawn .serialize)
              (c := serializeCall path) (compressLevel_prefixesOf env g scen workdir path)
            refine ⟨path, workdir, hpath, hw, hpre p ?_⟩
            rw [fork_afterSpawn_callPaths]
            rw [fork_serializeLadder_eq] at hp
            revert hp
            cases env.spawn .serialize <;> simp [Run.callPaths]
      · simp [Run.callPaths] at hp

theorem chainCalls_createCon {path : String} {c : Call}
    (hc : c ∈ chainCalls path workdir g scen env) (hs : c.stage = .createCon) :
    c = createConCall g workdir (encArgs (if encrypts scen env then "1" else "0")) := by
  unfold chainCalls at hc
  rcases h : dupIfSet scen.partnerCert env.partnerCertDup with _ | cert <;>
    simp only [h, Option.map_some', Option.toList_some, Option.map_none', Option.toList_none,
      List.nil_append, List.singleton_append, List.mem_cons, List.mem_singleton,
      List.not_mem_nil, or_false] at hc <;>
    rcases hc with rfl | rfl | rfl | rfl <;> simp_all [serializeCall, compressCall, encryptCall]

/-- A prefix of the chain that holds the create-contract call is the whole chain. -/
theorem eq_chainCalls_of_createCon {path : String} {p : List Call} {c : Call}
    (hpre : p <+: chainCalls path workdir g scen env) (hc : c ∈ p) (hs : c.stage = .createCon) :
    p = chainCalls path workdir g scen env := by
  rw [← List.mem_inits] at hpre
  unfold chainCalls at *
  rcases h : dupIfSet scen.partnerCert env.partnerCertDup with _ | cert <;>
    simp only [h, Option.map_some', Option.toList_some, Option.map_none', Option.toList_none,
      List.nil_append, List.singleton_append, List.inits, List.map_cons, List.map_nil,
      List.mem_cons, List.mem_singleton, List.not_mem_nil, or_false] at hpre ⊢ <;>
    rcases hpre with rfl | rfl | rfl | rfl | rfl <;>
    simp only [List.mem_cons, List.mem_singleton, List.not_mem_nil, or_false] at hc <;>
    rcases hc with rfl | rfl | rfl | rfl <;> simp_all [serializeCall, compressCall, encryptCall]

/-- On every path that reaches create-contract, the create-contract call is read with
`argc` 10 from `create_con_args`, which is declared with 8 entries and receives stores at
indices 8 and 9: the vector is not within its declared bounds. -/
theorem createCon_args_out_of_bounds (asps : List String) {p : List Call} {c : Call}
    (hp : p ∈ (executeSignSendPipeline asps g scen env).callPaths) (hc : c ∈ p)
    (hs : c.stage = .createCon) :
    c.argv.declared = 8 ∧ c.argc = 10 ∧ ¬ c.argv.InBounds c.argc := by
  obtain ⟨path, workdir, -, -, -, hpre⟩ := executeSignSendPipeline_callPaths env g scen asps hp
  rw [chainCalls_createCon env g scen workdir (hpre.subset hc) hs]
  exact ⟨rfl, rfl, fun h => absurd h.2 (by decide : ¬ (10 ≤ 8))⟩

/-- When the partner certificate is copied, every path that reaches create-contract
spawns encrypt right after compress, with the certificate as its only argument, and hands
create-contract the flag "1". -/
theorem createCon_path_of_partnerCert (asps : List String) {cert : String}
    (hcert : dupIfSet scen.partnerCert env.partnerCertDup = some cert) {p : List Call}
    {c : Call} (hp : p ∈ (executeSignSendPipeline asps g scen env).callPaths) (hc : c ∈ p)
    (hs : c.stage = .createCon) :
    ∃ path workdir, p = [serializeCall path, compressCall, encryptCall cert,
      createConCall g workdir (encArgs "1")] := by
  obtain ⟨path, workdir, -, -, -, hpre⟩ := executeSignSendPipeline_callPaths env g scen asps hp
  refine ⟨path, workdir, ?_⟩
  rw [eq_chainCalls_of_createCon env g scen workdir hpre hc hs, chainCalls, hcert]
  simp [encrypts, hcert]

/-- The spec's pipeline with the partner certificate "peer.pem": the path to create-contract
runs encrypt on it and hands create-contract the flag "1". -/
theorem encrypted_createCon_path :
    ∃ path workdir, [serializeCall "graph", compressCall, encryptCall "peer.pem",
        createConCall ⟨"", "", "", "", "", "", "0"⟩ "/tmp" (encArgs "1")] =
      [serializeCall path, compressCall, encryptCall "peer.pem",
        createConCall ⟨"", "", "", "", "", "", "0"⟩ workdir (encArgs "1")] :=
  createCon_path_of_partnerCert ⟨true, true, some "graph", fun _ => .launched true 1, 0⟩
    ⟨"", "", "", "", "", "", "0"⟩
    ⟨none, none, none, none, none, none, false, some "/tmp", some "peer.pem", none, 0⟩
    pipelineAsps rfl
    (p := [serializeCall "graph", compressCall, encryptCall "peer.pem",
      createConCall ⟨"", "", "", "", "", "", "0"⟩ "/tmp" (encArgs "1")])
    (c := createConCall ⟨"", "", "", "", "", "", "0"⟩ "/tmp" (encArgs "1"))
    (by decide) (by decide) rfl

end Shape

/-- With a partner certificate set but its copy failing, the chain reaches create-contract
without encrypt and with the flag "0", and send runs behind it. -/
theorem partner_cert_copy_failure_skips_encrypt :
    [serializeCall "graph", compressCall,
        createConCall ⟨"", "", "", "", "", "", "0"⟩ "/tmp" (encArgs "0")] ∈
      (executeSignSendPipeline pipelineAsps ⟨"", "", "", "", "", "", "0"⟩
        ⟨none, none, none, none, none, none, false, some "/tmp", some "partner.pem", none, 0⟩
        ⟨true, false, some "graph", fun _ => .launched true 1, 0⟩).callPaths ∧
    (executeSignSendPipeline pipelineAsps ⟨"", "", "", "", "", "", "0"⟩
        ⟨none, none, none, none, none, none, false, some "/tmp", some "partner.pem", none, 0⟩
        ⟨true, false, some "graph", fun _ => .launched true 1, 0⟩).sendPaths =
      [[.serialize, .compress, .createCon]] := by
  decide

/-- With no partner certificate and every spawn succeeding, the path that reaches
create-contract reads ten entries from `create_con_args`, declared with eight. -/
theorem createCon_args_overflow_without_partner_cert :
    [serializeCall "graph", compressCall,
        createConCall ⟨"", "", "", "", "", "", "0"⟩ "/tmp" (encArgs "0")] ∈
      (executeSignSendPipeline pipelineAsps ⟨"", "", "", "", "", "", "0"⟩
        ⟨none, none, none, none, none, none, false, some "/tmp", none, none, 0⟩
        ⟨true, true, some "graph", fun _ => .launched true 1, 0⟩).callPaths ∧
    ¬ (createConCall ⟨"", "", "", "", "", "", "0"⟩ "/tmp" (encArgs "0")).argv.InBounds 10 :=
  have hp : [serializeCall "graph", compressCall,
        createConCall ⟨"", "", "", "", "", "", "0"⟩ "/tmp" (encArgs "0")] ∈
      (executeSignSendPipeline pipelineAsps ⟨"", "", "", "", "", "", "0"⟩
        ⟨none, none, none, none, none, none, false, some "/tmp", none, none, 0⟩
        ⟨true, true, some "graph", fun _ => .launched true 1, 0⟩).callPaths := by
    decide
  ⟨hp, (createCon_args_out_of_bounds _ _ _ _ hp
    (List.mem_cons_of_mem _ (List.mem_cons_of_mem _ (List.mem_singleton_self _))) rfl).2.2⟩

end Maat.Pipeline
