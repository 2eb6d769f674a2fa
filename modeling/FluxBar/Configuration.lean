import FluxBar.Library.TransitionSystem
import FluxBar.Library.WeakRegistry

/-! Configurations of the core. A call of `configure` builds a candidate engine
outside the session lock and installs it, or the live engine of its account,
inside. Engines are shared: the session holds one, operations and scheduler
workers hold theirs for as long as they run, and an engine nobody holds is
dropped. -/
namespace FluxBar
open Transition WeakRegistry

/-- A `SyncService`: the allocation, and the account it is bound to. Two of one account are
told apart by the allocation. -/
structure Engine where
  id : Nat
  accountId : String
  deriving DecidableEq, Repr

/-- A call of `configure` on its way to the session lock, with the engine it has built
meanwhile. -/
structure Configuration where
  candidate : Engine
  newestFirst : Bool
  generation : Int
  deriving DecidableEq, Repr

/-- The account a call has derived from its server and key. -/
def Configuration.accountId (call : Configuration) : String := call.candidate.accountId

/-- `runtime::Session`, its `Config` included. -/
structure AppRuntime.Session where
  accountId : String
  generation : Int
  engine : Engine
  deriving DecidableEq, Repr

/-- `AppRuntime`: the session, and a weak reference to the engine of each account, which
outlives the session but not the engine. -/
structure AppRuntime where
  session : Option AppRuntime.Session
  services : List (String × Engine)

namespace AppRuntime

/-- Whether a call replaces the session: its generation is not older than that of the
session. -/
def replaces (runtime : AppRuntime) (call : Configuration) : Bool :=
  match runtime.session with
  | none => true
  | some existing => existing.generation ≤ call.generation

/-- The engine a call that replaces the session installs: the account's, where it is alive,
and else the one the call has built. -/
def chosen (runtime : AppRuntime) (alive : Engine → Bool) (call : Configuration) : Engine :=
  (upgrade alive call.accountId runtime.services).getD call.candidate

/-- What `configure` does under the session lock when it replaces the session. -/
def install (runtime : AppRuntime) (alive : Engine → Bool) (call : Configuration) : AppRuntime where
  session := some {
    accountId := call.accountId
    generation := call.generation
    engine := runtime.chosen alive call }
  services := register call.accountId (runtime.chosen alive call)
    (prune alive call.accountId runtime.services)

end AppRuntime

/-- Somebody who holds an engine: an operation or a scheduler worker, in the sync
gate of the engine or outside. -/
structure Hold where
  engine : Engine
  gated : Bool
  deriving DecidableEq, Repr

/-- The process: the runtime, the engines and their holders. The last two fields are
history: the calls that reached the lock, latest first, and what was installed for
which account. -/
structure Process where
  runtime : AppRuntime
  built : Nat
  newestFirst : Nat → Bool
  configuring : List Configuration
  holds : List Hold
  reached : List Configuration
  installed : List (String × Engine)

namespace Process
variable (process : Process)

/-- `Arc::strong_count`: the session, the calls that have built the engine, and those that
hold it. -/
def strongCount (engine : Engine) : Nat :=
  (if process.runtime.session.map AppRuntime.Session.engine = some engine then 1 else 0) +
    process.configuring.countP (fun call => call.candidate = engine) +
    process.holds.countP fun hold => hold.engine = engine

def alive (engine : Engine) : Bool := 0 < process.strongCount engine

/-- `configure` as far as the session lock: validation has passed, the store is open. -/
def build (accountId : String) (newestFirst : Bool) (generation : Int) : Process :=
  { process with
    built := process.built + 1
    newestFirst := Function.update process.newestFirst process.built newestFirst
    configuring := ⟨⟨process.built, accountId⟩, newestFirst, generation⟩ :: process.configuring }

/-- `configure` under the session lock. What the call and the old session held is
dropped at its end. -/
def configure (call : Configuration) : Process :=
  let configuring := process.configuring.erase call
  let reached := call :: process.reached
  if process.runtime.replaces call then
    let engine := process.runtime.chosen process.alive call
    { process with
      runtime := process.runtime.install process.alive call
      newestFirst := Function.update process.newestFirst engine.id call.newestFirst
      configuring
      reached
      installed := (call.accountId, engine) :: process.installed }
  else { process with configuring, reached }

/-- The moves of the process, each atomic under its lock; calls, operations, workers and
drops may interleave in any way. -/
inductive Step : Process → Process → Prop where
  | build {process : Process} (accountId : String) (newestFirst : Bool) (generation : Int) :
      Step process (process.build accountId newestFirst generation)
  | configure {process : Process} (call : Configuration) : call ∈ process.configuring →
      Step process (process.configure call)
  /-- `current_engine`, by an operation that begins. -/
  | acquire {process : Process} (session : AppRuntime.Session) :
      process.runtime.session = some session →
      Step process { process with holds := ⟨session.engine, false⟩ :: process.holds }
  /-- A scheduler worker is started by a holder. -/
  | share {process : Process} (hold : Hold) : hold ∈ process.holds →
      Step process { process with holds := ⟨hold.engine, false⟩ :: process.holds }
  /-- A refresh or a flush takes the gate. -/
  | enter {process : Process} (engine : Engine) : ⟨engine, false⟩ ∈ process.holds →
      ⟨engine, true⟩ ∉ process.holds →
      Step process { process with
        holds := ⟨engine, true⟩ :: process.holds.erase ⟨engine, false⟩ }
  | leave {process : Process} (engine : Engine) : ⟨engine, true⟩ ∈ process.holds →
      Step process { process with
        holds := ⟨engine, false⟩ :: process.holds.erase ⟨engine, true⟩ }
  | release {process : Process} (engine : Engine) : ⟨engine, false⟩ ∈ process.holds →
      Step process { process with holds := process.holds.erase ⟨engine, false⟩ }

end Process

/-- A process that has just started. -/
def Process.start : Process where
  runtime := ⟨none, []⟩
  built := 0
  newestFirst _ := false
  configuring := []
  holds := []
  reached := []
  installed := []

def processes : System Process where
  initial process := process = .start
  step := Process.Step

end FluxBar
