import Maat.Pipeline.Process

/-! # The sign-and-send pipeline

`execute_sign_send_pipeline` copies the working directory, loads its five ASPs, and then
forks a chain: serialize, compress, encrypt when a partner certificate can be copied, and
create-contract, each spawned by the child of the previous spawn. The last child runs the
send ASP itself. Each level below is one block of the source, in source order. -/

namespace Maat.Pipeline

/-- What the collaborators of `execute_sign_send_pipeline` do in one run. -/
structure PipelineEnv where
  /-- Whether `strdup(scen->workdir)` could allocate. -/
  workdirDup : Bool
  /-- Whether `strdup(scen->partner_cert)` could allocate. -/
  partnerCertDup : Bool
  /-- `measurement_graph_get_path(graph)`; `none` is NULL. -/
  graphPath : Option String
  /-- How the spawn of each stage goes. -/
  spawn : Stage → Spawn
  /-- What `run_asp(send, ...)` returns in the process that runs it. -/
  sendStatus : Int

/-- `find_asp(apb_asps, name)` finds the ASP. -/
def findAsp (asps : List String) (name : String) : Bool := name ∈ asps

/-- The ASPs the pipeline loads by name, in the order it looks them up. -/
def pipelineAsps : List String :=
  ["serialize_graph_asp", "compress_asp", "encrypt_asp", "create_measurement_contract_asp",
    "send_asp"]

/-- Stores made in order, `argv[i] = s` for each `(i, s)`. -/
def ArgArray.storeAll (a : ArgArray) (l : List (Nat × String)) : ArgArray :=
  { a with stores := a.stores ++ l }

/-- The stores of lines 432-441 into `create_con_args`. -/
def createConStores (workdir : String) (g : Staged) : List (Nat × String) :=
  [(0, workdir), (1, g.certfile), (2, g.keyfile), (3, g.keypass), (4, g.tpmpass),
    (5, g.akctx), (6, g.signTpm), (7, "1"), (8, "1")]

/-- `char *create_con_args[8]` after `create_con_args[9] = enc`. -/
def encArgs (enc : String) : ArgArray := (ArgArray.empty 8).store 9 enc

section Levels

variable (env : PipelineEnv) (g : Staged) (scen : Scenario) (workdir : String)

/-- The create-contract child: `run_asp(send, ...)`, then `exit(-1)` on a negative status
and `exit(ret_val)` otherwise. -/
def sendLeaf : Run :=
  .send env.sendStatus (if env.sendStatus < 0 then .exit (-1) else .exit env.sendStatus)

/-- The create-contract call, with `create_con_args` filled on top of `args`. -/
def createConCall (args : ArgArray) : Call :=
  ⟨.createCon, 10, args.storeAll (createConStores workdir g)⟩

/-- Lines 432-464: spawn create-contract; its child runs send. -/
def createConLevel (args : ArgArray) : Run :=
  fork (env.spawn .createCon) (createConCall g workdir args) (afterSpawn · (sendLeaf env))

/-- The encrypt call, with the copied partner certificate as its only argument. -/
def encryptCall (cert : String) : Call := ⟨.encrypt, 1, (ArgArray.empty 1).store 0 cert⟩

/-- Lines 411-430: spawn encrypt when the partner certificate is set and its copy could be
allocated, otherwise go straight to create-contract with the flag "0". -/
def encryptLevel : Run :=
  match dupIfSet scen.partnerCert env.partnerCertDup with
  | some cert =>
      fork (env.spawn .encrypt) (encryptCall cert)
        (afterSpawn · (createConLevel env g workdir (encArgs "1")))
  | none => createConLevel env g workdir (encArgs "0")

/-- The compress call: no arguments. -/
def compressCall : Call := ⟨.compress, 0, ArgArray.empty 0⟩

/-- Lines 400-410: the serialize child spawns compress. -/
def compressLevel : Run :=
  fork (env.spawn .compress) compressCall (afterSpawn · (encryptLevel env g scen workdir))

end Levels

/-- The serialize call, with the graph path as its only argument. -/
def serializeCall (path : String) : Call := ⟨.serialize, 1, (ArgArray.empty 1).store 0 path⟩

/-- Lines 395-399 and 466-473: the original process logs a failure and returns `ret_val`;
only the forked child (`ret_val == 0`) enters the chain. -/
def serializeLadder (retVal : Int) (child : Run) : Run :=
  if retVal = -2 then .ret retVal
  else if retVal = -1 then .ret retVal
  else if retVal = 0 then child
  else .ret retVal

/-- `execute_sign_send_pipeline(graph, scen, peerchan)` with the ASP list `asps` and the
staged credentials `g`. -/
def executeSignSendPipeline (asps : List String) (g : Staged) (scen : Scenario)
    (env : PipelineEnv) : Run :=
  match dupIfSet scen.workdir env.workdirDup with
  | none => .ret (-1)
  | some workdir =>
      if pipelineAsps.all (findAsp asps) then
        match env.graphPath with
        | none => .ret (-1)
        | some path =>
            fork (env.spawn .serialize) (serializeCall path)
              (serializeLadder · (compressLevel env g scen workdir))
      else .ret (-1)

/-! ## The chain as a list of stages -/

/-- Whether the chain encrypts: the partner certificate is set and could be copied. -/
def encrypts (scen : Scenario) (env : PipelineEnv) : Bool :=
  (dupIfSet scen.partnerCert env.partnerCertDup).isSome

/-- The stages the chain spawns, in order. -/
def stages (scen : Scenario) (env : PipelineEnv) : List Stage :=
  if encrypts scen env then [.serialize, .compress, .encrypt, .createCon]
  else [.serialize, .compress, .createCon]

/-- Everything before the first spawn succeeds: the working directory is copied, the five
ASPs are found and the graph has a path. -/
def Prepared (asps : List String) (scen : Scenario) (env : PipelineEnv) : Prop :=
  (dupIfSet scen.workdir env.workdirDup).isSome ∧ pipelineAsps.all (findAsp asps) ∧
    env.graphPath.isSome

instance (asps : List String) (scen : Scenario) (env : PipelineEnv) :
    Decidable (Prepared asps scen env) :=
  inferInstanceAs (Decidable (_ ∧ _ ∧ _))

/-- The exit code of the process that runs send. -/
def sendCode (env : PipelineEnv) : Int := if env.sendStatus < 0 then -1 else env.sendStatus

/-- Every process forked after serialize succeeds: the spawns of the later stages succeed
and the send process's exit code reads as success. -/
def ChainOk (scen : Scenario) (env : PipelineEnv) : Prop :=
  (∀ st ∈ (stages scen env).tail, (env.spawn st).ok) ∧ exitStatus (sendCode env) = 0

instance (scen : Scenario) (env : PipelineEnv) : Decidable (ChainOk scen env) :=
  inferInstanceAs (Decidable (_ ∧ _))

/-- The value the original process returns, computed stage by stage. -/
def pipelineResult (asps : List String) (scen : Scenario) (env : PipelineEnv) : Int :=
  if Prepared asps scen env then
    match env.spawn .serialize with
    | .failed => -2
    | .launched aspOk pid => if aspOk = true ∧ ChainOk scen env then (pid : Int) else -1
  else -1


/-! ## What the original process returns -/

section Result

variable (env : PipelineEnv) (g : Staged) (scen : Scenario) (workdir : String)

theorem exitStatus_ite (p : Prop) [Decidable p] : exitStatus (if p then 0 else -1) = 0 ↔ p := by
  split_ifs with h <;> simp [h, exitStatus]

@[simp] theorem sendLeaf_ending : (sendLeaf env).ending = .exits (sendCode env) := by
  unfold sendLeaf sendCode; split_ifs <;> rfl

theorem createConLevel_ok (args : ArgArray) :
    exitStatus (createConLevel env g workdir args).ending.code = 0 ↔
      (env.spawn .createCon).ok = true ∧ exitStatus (sendCode env) = 0 := by
  rw [createConLevel, fork_afterSpawn_ending, sendLeaf_ending, Ending.code_exits]
  exact exitStatus_ite _

theorem encryptLevel_ok :
    exitStatus (encryptLevel env g scen workdir).ending.code = 0 ↔
      (encrypts scen env = true → (env.spawn .encrypt).ok = true) ∧
        (env.spawn .createCon).ok = true ∧ exitStatus (sendCode env) = 0 := by
  unfold encryptLevel encrypts
  split
  · next cert h =>
      simp only [h, fork_afterSpawn_ending, Ending.code_exits, exitStatus_ite, createConLevel_ok,
        Option.isSome_some, forall_const]
  · next h => simp [h, createConLevel_ok]

theorem compressLevel_ok :
    exitStatus (compressLevel env g scen workdir).ending.code = 0 ↔ ChainOk scen env := by
  rw [compressLevel, fork_afterSpawn_ending, Ending.code_exits, exitStatus_ite, encryptLevel_ok]
  unfold ChainOk stages
  cases encrypts scen env <;> simp [and_assoc]

theorem fork_serializeLadder_ending (s : Spawn) (c : Call) (child : Run) :
    (fork s c (serializeLadder · child)).ending =
      .returns (forkAndBufferAsyncAsp s child.ending.code) := by
  have hne := forkAndBufferAsyncAsp_ne_zero s child.ending.code
  cases s with
  | failed => rfl
  | launched aspOk pid =>
      simp only [fork, serializeLadder, if_neg (show (0 : Int) ≠ -2 by decide),
        if_neg (show (0 : Int) ≠ -1 by decide), if_pos rfl]
      simp only [Run.ending, Ending.returns.injEq]
      split_ifs <;> rfl

/-- The fork chain returns to `apb_execute` exactly the value computed stage by stage. -/
theorem executeSignSendPipeline_ending (asps : List String) :
    (executeSignSendPipeline asps g scen env).ending = .returns (pipelineResult asps scen env) := by
  unfold executeSignSendPipeline pipelineResult Prepared
  split
  · next h => simp [h, Run.ending]
  · next workdir h =>
      by_cases ha : pipelineAsps.all (findAsp asps) = true
      · simp only [h, ha, if_true, Option.isSome_some, true_and]
        split
        · next hp => simp [hp, Run.ending]
        · next path hp =>
            simp only [hp, fork_serializeLadder_ending, Option.isSome_some, if_true]
            cases env.spawn .serialize with
            | failed => rfl
            | launched aspOk pid => simp only [forkAndBufferAsyncAsp, compressLevel_ok]
      · simp [ha, Run.ending]

theorem exitStatus_sendCode :
    exitStatus (sendCode env) = 0 ↔ 0 ≤ env.sendStatus ∧ env.sendStatus % 256 = 0 := by
  unfold sendCode exitStatus; split_ifs <;> omega

theorem forall_stages_iff (p : Stage → Prop) :
    (∀ st ∈ stages scen env, p st) ↔ p .serialize ∧ ∀ st ∈ (stages scen env).tail, p st := by
  unfold stages; split <;> simp

/-- What the caller sees of "send returned 0": the original process gets a
non-negative value exactly when everything before the first spawn succeeds, every spawn of
the chain succeeds, and the send status is non-negative with its low eight bits zero. -/
theorem pipelineResult_nonneg_iff (asps : List String) :
    0 ≤ pipelineResult asps scen env ↔
      Prepared asps scen env ∧ (∀ st ∈ stages scen env, (env.spawn st).ok) ∧
        0 ≤ env.sendStatus ∧ env.sendStatus % 256 = 0 := by
  rw [forall_stages_iff, ← exitStatus_sendCode]
  unfold pipelineResult
  split_ifs with hp
  · cases env.spawn .serialize with
    | failed => simp [Spawn.ok]
    | launched aspOk pid =>
        have := pid.pos
        simp only [Spawn.ok, ChainOk]
        split_ifs with h
        · exact iff_of_true (by omega) ⟨hp, ⟨h.1, h.2.1⟩, h.2.2⟩
        · exact iff_of_false (by omega) fun ⟨_, ⟨h1, h2⟩, h3⟩ => h ⟨h1, h2, h3⟩
  · simp [hp]

/-- `execute_sign_send_pipeline` returns to `apb_execute` a value that is non-negative exactly
when everything before the first spawn succeeds, every spawn of the chain succeeds, and the
send status is non-negative with its low eight bits zero. -/
theorem executeSignSendPipeline_returns_nonneg_iff (asps : List String) :
    ∃ v, (executeSignSendPipeline asps g scen env).ending = .returns v ∧
      (0 ≤ v ↔ Prepared asps scen env ∧ (∀ st ∈ stages scen env, (env.spawn st).ok) ∧
        0 ≤ env.sendStatus ∧ env.sendStatus % 256 = 0) :=
  ⟨_, executeSignSendPipeline_ending env g scen asps, pipelineResult_nonneg_iff env scen asps⟩

/-- Only a failed serialize spawn reaches `apb_execute` as -2. Once serialize is spawned, a
spawn failure further down the chain arrives as -1, the code of a stage failure. -/
theorem pipeline_spawn_failure_code (asps : List String) :
    ((executeSignSendPipeline asps g scen env).ending = .returns (-2) ↔
        Prepared asps scen env ∧ env.spawn .serialize = .failed) ∧
      (Prepared asps scen env → env.spawn .serialize ≠ .failed →
        (∃ st ∈ (stages scen env).tail, env.spawn st = .failed) →
          (executeSignSendPipeline asps g scen env).ending = .returns (-1)) := by
  simp only [executeSignSendPipeline_ending, Ending.returns.injEq]
  unfold pipelineResult ChainOk
  constructor
  · split_ifs with hp
    · cases env.spawn .serialize with
      | failed => simp [hp]
      | launched aspOk pid =>
          simp only [reduceCtorEq, and_false, iff_false]
          split_ifs <;> simp
    · simp [hp]
  · intro hp hs ⟨st, hst, hf⟩
    simp only [if_pos hp]
    cases hser : env.spawn .serialize with
    | failed => exact absurd hser hs
    | launched aspOk pid =>
        have hnot : ¬(env.spawn st).ok = true := by simp [hf, Spawn.ok]
        simp only [ite_eq_right_iff]
        exact fun h => absurd (h.2.1 st hst) hnot

end Result

/-- Every spawn succeeds and no partner certificate is set, but send returns 256: the leaf's
`exit(256)` reads as status 0, so the original process returns the serialize child's pid. -/
theorem pipeline_returns_pid_for_send_status_256 :
    (executeSignSendPipeline pipelineAsps ⟨"", "", "", "", "", "", "0"⟩
        ⟨none, none, none, none, none, none, false, some "/tmp", none, none, 0⟩
        ⟨true, true, some "graph", fun _ => .launched true 1, 256⟩).ending = .returns 1 := by
  rfl

/-- A spawn failure at compress and a failure of the compress stage reach `apb_execute` as
the same value. -/
theorem compress_spawn_failure_reads_as_stage_failure :
    (executeSignSendPipeline pipelineAsps ⟨"", "", "", "", "", "", "0"⟩
        ⟨none, none, none, none, none, none, false, some "/tmp", none, none, 0⟩
        ⟨true, true, some "graph",
          fun st => if st = .compress then .failed else .launched true 1, 0⟩).ending =
      (executeSignSendPipeline pipelineAsps ⟨"", "", "", "", "", "", "0"⟩
        ⟨none, none, none, none, none, none, false, some "/tmp", none, none, 0⟩
        ⟨true, true, some "graph",
          fun st => if st = .compress then .launched false 1 else .launched true 1, 0⟩).ending := by
  rfl

end Maat.Pipeline
