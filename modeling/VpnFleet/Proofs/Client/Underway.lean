import VpnFleet.Proofs.Client.Bystanders

/-!
# What is under way

A step leaves operations behind that wait for something, and the followers of
each start. Here is what such an operation can be, and how the lists of a run
change when a step is taken.

* `Operation.interferes` marks an activation by hand and a teardown, and
  `subscription?` and `drains` say which of the two it is. Only their commands
  lead to one: no answer does.
* `mem_follow_jobs` says which operations are under way after a step, and
  `followers` is what a run knows of the followers.
-/

namespace VpnFleet

/-- An activation by hand, or a teardown. -/
def Operation.interferes {yield : Yield} : Operation yield → Bool
  | .awaiting _ (.activate _) => true
  | .draining => true
  | _ => false

/-- The activation by hand whose feed an operation waits for. -/
def Operation.subscription? {yield : Yield} : Operation yield → Option Nat
  | .awaiting _ (.activate generation) => some generation
  | _ => none

/-- The operation waits for the end of the loops. -/
def Operation.drains {yield : Yield} : Operation yield → Bool
  | .draining => true
  | _ => false

namespace Next

variable {yield : Yield} {next : Next yield}

def interferes : Next yield → Bool
  | .finished _ => false
  | .waiting operation => operation.interferes

def subscription? : Next yield → Option Nat
  | .finished _ => none
  | .waiting operation => operation.subscription?

def drains : Next yield → Bool
  | .finished _ => false
  | .waiting operation => operation.drains

theorem subscription?_eq_none (h : next.interferes = false) : next.subscription? = none := by
  cases next with
  | finished value => rfl
  | waiting operation =>
    cases operation with
    | awaiting call resumption =>
      cases resumption with
      | activate generation => cases h
      | load goal => cases goal <;> rfl
      | query began goal => cases goal <;> rfl
      | _ => rfl
    | _ => rfl

theorem drains_eq_false (h : next.interferes = false) : next.drains = false := by
  cases next with
  | finished value => rfl
  | waiting operation =>
    cases operation with
    | draining => cases h
    | _ => rfl

end Next

namespace Client

variable {yield : Yield} (client : Client)

theorem finishClose_interferes (closing : Closing) :
    (client.finishClose closing).next.interferes = false := by
  cases closing with
  | silent => rfl
  | disconnection outcome => cases outcome <;> rfl

theorem deactivate_interferes (closing : Closing) :
    (client.deactivate closing).next.interferes = false := by
  unfold deactivate
  split
  · rfl
  · exact finishClose_interferes _ closing

theorem spawn_interferes (region : String) (reporting : Reporting) :
    (client.spawn region reporting).next.interferes = false := by
  unfold spawn
  split <;> rfl

theorem terminate_interferes (id : String) (reporting : Reporting) :
    (client.terminate id reporting).next.interferes = false := by
  unfold terminate
  split <;> rfl

theorem openTunnel_interferes (target : Instance) (reporting : Reporting) :
    (client.openTunnel target reporting).next.interferes = false := by
  unfold openTunnel
  split <;> rfl

theorem connect_interferes (id : String) : (client.connect id).next.interferes = false := by
  unfold connect
  split
  · exact openTunnel_interferes client _ _
  · rfl

theorem settleSweep_interferes (sweep : Sweep) (goal : RefreshGoal yield) :
    (client.settleSweep sweep goal).next.interferes = false := by
  cases goal <;> rfl

end Client

/-- The rest of a command that is neither an activation nor a teardown. -/
theorem Command.start_interferes
    {yield : Yield} (client : Client) (command : Command yield)
    (hdrives : command.drivesStream = false) (htears : command.tearsDown = false) :
    (command.start client).next.interferes = false := by
  cases command with
  | activateStream => cases hdrives
  | deactivateStream => cases hdrives
  | shutdown => cases htears
  | spawn region => exact client.spawn_interferes region .noticed
  | spawnServer region => exact client.spawn_interferes region .silent
  | terminate id => exact client.terminate_interferes id .noticed
  | terminateServer id => exact client.terminate_interferes id .silent
  | connect id => exact client.connect_interferes id
  | openTunnel target => exact client.openTunnel_interferes target .silent
  | _ => rfl

/-- The rest of a command that does not drive the stream waits for no feed. -/
theorem Command.start_subscription?
    {yield : Yield} (client : Client) (command : Command yield)
    (hdrives : command.drivesStream = false) :
    (command.start client).next.subscription? = none := by
  by_cases htears : command.tearsDown = false
  · exact Next.subscription?_eq_none (command.start_interferes client hdrives htears)
  · cases command with
    | shutdown => rfl
    | _ => exact absurd rfl htears

theorem Command.start_drains
    {yield : Yield} (client : Client) (command : Command yield)
    (htears : command.tearsDown = false) :
    (command.start client).next.drains = false := by
  by_cases hdrives : command.drivesStream = false
  · exact Next.drains_eq_false (command.start_interferes client hdrives htears)
  · cases command with
    | activateStream =>
      show client.activate.next.drains = false
      unfold Client.activate
      split <;> rfl
    | deactivateStream => exact Next.drains_eq_false (client.deactivate_interferes .silent)
    | _ => exact absurd rfl hdrives

theorem LoadGoal.settle_interferes
    {yield : Yield} (client : Client) (outcome : Except CatalogError (List Region))
    (goal : LoadGoal yield) :
    (goal.settle client outcome).next.interferes = false := by
  cases goal <;> cases outcome <;> rfl

theorem QueryGoal.settle_interferes
    {yield : Yield} (client : Client) (outcome : Except SessionError VpnSession)
    (goal : QueryGoal yield) :
    (goal.settle client outcome).next.interferes = false := by
  cases goal <;> cases outcome <;> rfl

/-- What is left of an operation after an answer does not interfere. -/
theorem Resumption.settle_interferes
    {call : Call} {yield : Yield} (client : Client) (resumption : Resumption call yield)
    (answer : call.Answer) :
    (resumption.settle client answer).next.interferes = false := by
  cases resumption with
  | load goal => exact goal.settle_interferes _ _
  | spawn placeholder reporting => cases answer <;> cases reporting <;> rfl
  | terminate termination reporting => cases answer <;> cases reporting <;> rfl
  | connect target reporting => cases answer <;> cases reporting <;> rfl
  | query began goal => exact goal.settle_interferes _ _
  | disconnect reporting =>
    cases reporting with
    | silent => rfl
    | noticed => exact Client.deactivate_interferes _ _
  | activate generation =>
    show (settleActivate client generation answer).next.interferes = false
    unfold settleActivate
    dsimp only
    split <;> rfl
  | close feed closing => exact client.finishClose_interferes closing
  | save credentials => cases answer <;> rfl

namespace ClientRun

/-- The follower of each start. -/
def followers (run : ClientRun) : List (Option Follower) :=
  run.loops.map Loops.follower

variable {yield : Yield} (run : ClientRun)

@[simp]
theorem perform_background (effect : Effect) :
    (run.perform effect).background = run.background := by
  cases effect <;> rfl

@[simp]
theorem perform_jobs (effect : Effect) : (run.perform effect).jobs = run.jobs := by
  cases effect <;> rfl

@[simp]
theorem take_background (client : Client) (effects : List Effect) :
    (run.take client effects).background = run.background :=
  foldl_perform_eq _ ClientRun.background perform_background effects

@[simp]
theorem take_jobs (client : Client) (effects : List Effect) :
    (run.take client effects).jobs = run.jobs :=
  foldl_perform_eq _ ClientRun.jobs perform_jobs effects

theorem enqueue_jobs (operation : Operation yield) :
    ∃ awaited, (run.enqueue operation).jobs = run.jobs ++ [⟨yield, operation, awaited⟩] := by
  cases operation <;> exact ⟨_, rfl⟩

theorem enqueue_background
    {operation : Operation yield} (h : operation.drains = false) :
    (run.enqueue operation).background = run.background := by
  cases operation with
  | draining => cases h
  | _ => rfl

/-- Only a teardown takes the background loops over. -/
theorem follow_background
    {turn : Turn yield} (h : turn.next.drains = false) :
    (run.follow turn).background = run.background := by
  unfold follow
  split
  · simp
  · next operation hnext =>
      rw [hnext] at h
      rw [enqueue_background _ h, take_background]

/-- An operation under way after a step was under way before or is what is left of the step. -/
theorem mem_follow_jobs
    {turn : Turn yield} {job : Job} (hjob : job ∈ (run.follow turn).jobs) :
    job ∈ run.jobs
      ∨ ∃ operation awaited, turn.next = .waiting operation ∧ job = ⟨yield, operation, awaited⟩ := by
  unfold follow at hjob
  split at hjob
  · left
    simpa using hjob
  · next operation hnext =>
      obtain ⟨awaited, hjobs⟩ := (run.take turn.client turn.effects).enqueue_jobs operation
      rw [hjobs, take_jobs, List.mem_append, List.mem_singleton] at hjob
      rcases hjob with hearlier | rfl
      · exact Or.inl hearlier
      · exact Or.inr ⟨operation, awaited, hnext, rfl⟩

theorem follow_followers (turn : Turn yield) : (run.follow turn).followers = run.followers := by
  simp [followers]

variable {run}

theorem setLoops_followers
    {start : Nat} {loops later : Loops}
    (found : run.loops[start]? = some loops) (hsame : later.follower = loops.follower) :
    (run.setLoops start later).followers = run.followers := by
  obtain ⟨hstart, hloops⟩ := List.getElem?_eq_some_iff.1 found
  have hmapped : start < (run.loops.map Loops.follower).length := by
    rw [List.length_map]
    exact hstart
  have hset := List.set_getElem_self hmapped
  rw [List.getElem_map, hloops, ← hsame, ← List.map_set] at hset
  exact hset

theorem getElem?_followers
    {start : Nat} {loops : Loops} (found : run.loops[start]? = some loops) :
    run.followers[start]? = some loops.follower := by
  simp [followers, found]

end ClientRun
end VpnFleet
