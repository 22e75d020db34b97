import PluginHost.Application.Basic

/-!
The run loop. Each turn looks at the quit flag, answers a pending request to reload, polls the
reactor, runs at most one task, and waits if there is nothing more to do. A failing task ends the
loop. When it has ended, what waits is dropped and the plugins are shut down.
-/

set_option autoImplicit false

namespace PluginHost

/-- What the loop does next. -/
inductive Phase where
  /-- Look at the quit flag. -/
  | check
  /-- Answer a pending request to reload. -/
  | attend
  | poll
  | execute
  /-- Wait, unless somebody asked to quit. -/
  | rest
  | finished
deriving DecidableEq, Repr

/-- The loop in progress: what comes next, and the failure of a task. -/
structure RunLoop where
  phase : Phase := .check
  failure : Option Failure := none

namespace Application

/-- One step of the loop. -/
def loopStep (dispatch : Dispatch) (patience : Nat) (loop : RunLoop) : Act Application RunLoop := do
  match loop.phase with
  | .check =>
    let a ← Act.get
    pure { loop with phase := if a.host.control.quitting then .finished else .attend }
  | .attend =>
    if ← onHost (Act.step Host.takeReload) then dispatchReload dispatch
    pure { loop with phase := .poll }
  | .poll =>
    let a ← Act.get
    let _ ← onHost (Host.pollBatch dispatch (max a.config.executor.pollBatch 1))
    pure { loop with phase := .execute }
  | .execute =>
    match ← onHost (Host.execute dispatch) with
    | .ok more => pure { loop with phase := if more then .check else .rest }
    | .error e =>
      tell .error "Task failed, quitting" [("error", .text e.display)]
      onHost (Act.modify Host.quit)
      pure { phase := .check, failure := loop.failure <|> some e }
  | .rest =>
    let a ← Act.get
    if a.host.control.quitting then pure { loop with phase := .check }
    else
      onHost (Host.block dispatch patience)
      pure { loop with phase := .check }
  | .finished => pure loop

/-- Takes steps until the loop has finished, but no more than a number of them. -/
def loopSteps (dispatch : Dispatch) (patience : Nat) : Nat → RunLoop → Act Application RunLoop
  | 0, _ => Act.stall
  | steps + 1, loop =>
    if loop.phase = .finished then pure loop
    else do
      let next ← loopStep dispatch patience loop
      loopSteps dispatch patience steps next

/-- What is done after the loop. The failure of a task counts more than that of a plugin. -/
def conclude (dispatch : Dispatch) (loop : RunLoop) : Act Application (Except Failure Unit) := do
  let pending ← Act.look fun a => a.host.executor.pending
  tell .info "Run loop stopped" [("pending", .number pending)]
  onHost (Act.modify Host.clear)
  let result ← shutDown dispatch
  match loop.failure with
  | none => pure result
  | some e =>
    match result with
    | .ok _ => pure ()
    | .error later =>
      tell .error "Shutdown failed after task failure" [("error", .text later.display)]
    pure (.error e)

/-- What is done before the loop. -/
def openLoop : Act Application RunLoop := do
  tell .info "Run loop started" []
  pure {}

/-- Runs posted tasks until somebody asks to quit or a task fails, then tears down. -/
def run (dispatch : Dispatch) (patience : Nat) : Act Application (Except Failure Unit) := do
  let opened ← openLoop
  let loop ← loopSteps dispatch patience patience opened
  conclude dispatch loop

end Application

end PluginHost
