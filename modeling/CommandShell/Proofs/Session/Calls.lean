import CommandShell.Proofs.Session.Rejection
import CommandShell.Session.Loop

/-!
# Lines that call one builtin

A line that is one command, and the command a builtin that returns, is one call: the targets are
opened, the builtin is called on the shell as it is then, what it says is delivered, and the targets
are closed. Nothing else of the engine is left in such a line, so what is known of the builtin is
known of the line (`runLine_call`).
-/

namespace CommandShell.Session

open CommandShell.Line CommandShell.Pipeline

variable {σ : Type} {registry : Registry} {s after : Shell} {line raw : String} {command : Command}
  {b : Builtin} {reply : Returned} {status : Int} {result : Except Fault Int}

theorem returned?_of_handler {inPipeline : Bool} {output errors : String}
    (hget : registry.get? command.name = some b)
    (hcall : b.handler ⟨command.arguments, inPipeline, registry.registered⟩ s =
      (.returned status output errors, after)) :
    returned? registry inPipeline command s = some { status, output, errors, shell := after } := by
  simp only [returned?, hget, hcall]

/-- **A line that is one call of a builtin is that call.** Its outcome is what comes of delivering
what the builtin says. -/
theorem runLine_call (E : Engine σ) {redirection : Redirection} {opened : Opened}
    (hparse : parse line = .ok { raw, commands := [command], redirection })
    (hnul : ∀ stream target, redirection.target? stream = some target →
      Path.hasNul target.path = false)
    (hget : registry.get? command.name = some b) (hopened : openTargets redirection s = opened)
    (hreply : returned? registry false command opened.shell = some reply)
    (hdeliver : reply.deliver opened.output opened.errors = (result, after)) (recorded : Bool) :
    let closed := (after.closeTarget opened.output).closeTarget opened.errors
    (runLine E registry s line recorded).outcome = result ∧
      (runLine E registry s line recorded).shell =
        remember { closed with lastStatus := result.toOption.getD closed.lastStatus } line
          recorded := by
  intro closed
  subst hopened
  obtain ⟨r, hrun, hshell⟩ := exists_run_call E hget hnul hreply
  rw [hdeliver] at hrun hshell
  have htext : runText E registry s (Text.trimString line) =
      { outcome := result
        shell := { closed with lastStatus := result.toOption.getD closed.lastStatus }
        run := some r } := by
    rw [runText, parse_trimString, hparse]
    simp only [buildStages_call hget, hrun]
    cases result <;> simp only [settled, hshell] <;> rfl
  rw [runLine_of_ne E registry s (trimString_ne_of_parse hparse List.mem_cons_self), htext]
  exact ⟨rfl, rfl⟩

/-- Where nothing is redirected, what the builtin says is written to the shell's own streams. -/
theorem runLine_plain_call (E : Engine σ)
    (hparse : parse line = .ok { raw, commands := [command] })
    (hget : registry.get? command.name = some b)
    (hreply : returned? registry false command s = some reply) (recorded : Bool) :
    (runLine E registry s line recorded).outcome = .ok reply.status ∧
      (runLine E registry s line recorded).shell =
        remember { (reply.shell.printError reply.errors).print reply.output with
          lastStatus := reply.status } line recorded := by
  have hdeliver : reply.deliver none none =
      (.ok reply.status, (reply.shell.printError reply.errors).print reply.output) := by
    rw [Returned.deliver, Option.getD_none, Option.getD_none, Shell.deliver_errors]
    dsimp only
    rw [Shell.deliver_output]
  have hnul : ∀ stream target, ({} : Redirection).target? stream = some target →
      Path.hasNul target.path = false := by
    intro stream target htarget
    cases stream <;> cases htarget
  exact runLine_call E hparse hnul hget rfl hreply hdeliver recorded

/-- A loop over one line that comes to its end and does not ask for the end of the session. -/
theorem loop_of_runLine (E : Engine σ) {f : Frontend} (hopen : s.exitRequest = none)
    (houtcome : (runLine E registry (showPrompt f s) line).outcome = .ok status)
    (hshell : (runLine E registry (showPrompt f s) line).shell = after)
    (hstill : after.exitRequest = none) :
    loop E registry f s [.line line] = (.ok (), showPrompt f after) := by
  have henter : enter E registry f (showPrompt f s) (.line line) = (.ok (), after) := by
    rw [enter, afterLine, houtcome, hshell]
  rw [loop_cons E registry f hopen [] henter, loop, hstill]
  rfl

end CommandShell.Session
