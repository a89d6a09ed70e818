import Maat.Pipeline.Tree

/-! # What the send ASP reads

Each `fork_and_buffer_async_asp` call runs one stage's ASP on a descriptor and hands the
process that goes on down the chain the read end of the pipe the ASP writes, in `fb_fd`.
Serialize is given the APB's standard input (line 394), every later stage `fb_fd` (lines
400, 417, 444), and send reads `fb_fd` (line 456). So send runs once exactly when everything
before the first spawn succeeds and no spawn fails, and reads the chain's calls applied in
order to the standard input: create-contract over encrypt, when the chain encrypts, over
compress over serialize (`sendInputs_executeSignSendPipeline`), never the `-1` that
`fb_fd` starts with.

## Implementation notes

`fork_and_buffer_async_asp` is not in src/. After the spec (§4.5), the stage's output pipe
becomes the next stage's input; the caller's `fb_fd` is taken to keep its value, which no
caller in the chain reads again. An ASP is the bytes it writes, as a function of its call
and the bytes it reads. -/

namespace Maat.Pipeline

/-- Whether a stage is given the APB's standard input rather than `fb_fd`: line 394 passes
`STDIN_FILENO` to serialize, lines 400, 417 and 444 pass `fb_fd` to the others. -/
def Stage.readsStdin : Stage → Bool
  | .serialize => true
  | _ => false

/-- The `fb_fd` of the process a call forks to go on: the pipe that the stage's ASP writes,
reading `stdin` or the caller's `fb`. `none` is the descriptor `-1`. -/
def childFd (asp : Call → Bytes → Bytes) (stdin : Bytes) (c : Call) (fb : Option Bytes) :
    Option Bytes :=
  (if c.stage.readsStdin then some stdin else fb).map (asp c)

namespace Run

/-- The bytes on the `fb_fd` that each run of send in the tree reads, in the order of
`sendPaths`, when the process at the root holds `fb`. -/
def sendInputs (asp : Call → Bytes → Bytes) (stdin : Bytes) :
    Run → Option Bytes → List (Option Bytes)
  | ret _, _ | exit _, _ => []
  | spawnFailed _ k, fb => k.sendInputs asp stdin fb
  | spawned c child k, fb =>
      child.sendInputs asp stdin (childFd asp stdin c fb) ++ k.sendInputs asp stdin fb
  | send _ k, fb => fb :: k.sendInputs asp stdin fb

end Run

section Flow

variable (asp : Call → Bytes → Bytes) (stdin : Bytes)

/-- Below a spawn of the chain only the forked process can run send, and it reads through
the stage's pipe; a failed spawn runs none. -/
theorem fork_afterSpawn_sendInputs (s : Spawn) (c : Call) (next : Run) (fb : Option Bytes) :
    (fork s c (afterSpawn · next)).sendInputs asp stdin fb =
      if s = .failed then [] else next.sendInputs asp stdin (childFd asp stdin c fb) := by
  cases s with
  | failed => simp [fork, afterSpawn, Run.sendInputs]
  | launched aspOk pid => simp [fork, afterSpawn_forkAndBufferAsyncAsp, Run.sendInputs]

variable (env : PipelineEnv) (g : Staged) (scen : Scenario) (workdir : String)

@[simp]
theorem sendInputs_sendLeaf (fb : Option Bytes) :
    (sendLeaf env).sendInputs asp stdin fb = [fb] := by
  unfold sendLeaf
  split_ifs <;> rfl

/-- Create-contract's forked process runs send on the pipe create-contract writes. -/
theorem createConLevel_sendInputs (args : ArgArray) (fb : Option Bytes) :
    (createConLevel env g workdir args).sendInputs asp stdin fb =
      if env.spawn .createCon = .failed then [] else [fb.map (asp (createConCall g workdir args))] := by
  simp [createConLevel, fork_afterSpawn_sendInputs, childFd, createConCall, Stage.readsStdin]

/-- From compress on, send runs once when no later spawn fails, and reads the rest of the
chain applied to what serialize wrote. -/
theorem compressLevel_sendInputs (path : String) (fb : Option Bytes) :
    (compressLevel env g scen workdir).sendInputs asp stdin fb =
      if ∀ st ∈ (stages scen env).tail, env.spawn st ≠ .failed then
        [fb.map fun x => (chainCalls path workdir g scen env).tail.foldl (fun b c => asp c b) x]
      else [] := by
  rw [stages_tail]
  unfold compressLevel encryptLevel chainCalls encrypts
  rcases dupIfSet scen.partnerCert env.partnerCertDup with _ | cert <;>
    simp only [fork_afterSpawn_sendInputs, createConLevel_sendInputs, childFd, Stage.readsStdin,
      compressCall, encryptCall, createConCall, Option.map_map, Function.comp_def,
      List.forall_mem_cons, List.not_mem_nil, false_implies, implies_true, ite_and, ite_not,
      Option.isSome_none, Option.isSome_some, if_true, if_false, Bool.false_eq_true,
      Option.map_none', Option.map_some', Option.toList_none, Option.toList_some,
      List.nil_append, List.singleton_append, List.tail_cons, List.foldl_cons, List.foldl_nil, ne_eq]

/-- Send runs exactly once when the working directory and the graph path are obtained, the
five ASPs are found and no spawn of the chain fails, and not at all otherwise. Whatever the
ASPs do, it reads the chain's calls applied in order to the APB's standard input, never the
`-1` that `fb_fd` starts with. -/
theorem sendInputs_executeSignSendPipeline (asps : List String) :
    (executeSignSendPipeline asps g scen env).sendInputs asp stdin none =
      match dupIfSet scen.workdir env.workdirDup, env.graphPath with
      | some workdir, some path =>
          if pipelineAsps.all (findAsp asps) ∧ ∀ st ∈ stages scen env, env.spawn st ≠ .failed then
            [some ((chainCalls path workdir g scen env).foldl (fun b c => asp c b) stdin)]
          else []
      | _, _ => [] := by
  unfold executeSignSendPipeline
  rcases dupIfSet scen.workdir env.workdirDup with _ | workdir
  · rfl
  · rcases env.graphPath with _ | path
    · simp only
      split_ifs <;> rfl
    · simp only
      by_cases ha : pipelineAsps.all (findAsp asps) = true
      · have hst : stages scen env = .serialize :: (stages scen env).tail := by
          rw [stages]; split <;> rfl
        rw [if_pos ha, fork_serializeLadder_eq, hst]
        cases hs : env.spawn .serialize with
        | failed => simp [Run.sendInputs, hs]
        | launched aspOk pid =>
            simp [Run.sendInputs, compressLevel_sendInputs asp stdin env g scen workdir path,
              childFd, serializeCall, Stage.readsStdin, ha, hs, chainCalls]
      · simp [ha, Run.sendInputs]

/-- The spec's pipeline with no partner certificate and every spawn launched, on three bytes
of standard input, with stages that prepend their `argc`: send reads the marks of
create-contract, compress and serialize, and none of encrypt. -/
example :
    (executeSignSendPipeline pipelineAsps ⟨"", "", "", "", "", "", "0"⟩
        ⟨none, none, none, none, none, none, false, some "/tmp", none, none, 0⟩
        ⟨true, true, some "graph", fun _ => .launched true 1, 0⟩).sendInputs
      (fun c b => c.argc.toUInt8 :: b) [1, 2, 3] none = [some [10, 0, 1, 1, 2, 3]] := by
  decide

end Flow

end Maat.Pipeline
