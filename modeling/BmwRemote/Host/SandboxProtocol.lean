import BmwRemote.Host.SandboxAnswer
import BmwRemote.Host.SandboxMonotone

/-! The sandbox over its input and output: a line of JSON for every line of text. -/
namespace BmwRemote.Host

open BmwRemote.Application BmwRemote.Infrastructure BmwRemote.Lib
open BmwRemote.Lib.Text (ascii)

def quit : Text := ascii "quit"

/-- The loop of `runSandboxProtocol`: the exit code and the output. -/
def serve (session : SandboxSession) : List Text → Nat × Text
  | [] => (0, [])
  | line :: lines =>
    let command := trim line
    let (result, session) := session.execute command
    let answer := encodeSandboxResult result ++ [Text.newline]
    if command = quit then (if result.ok then 0 else 64, answer)
    else
      let (code, answers) := serve session lines
      (code, answer ++ answers)

def runSandboxProtocol (input : Text) : Nat × Text := serve .new (Text.lines input)

def served : List Text → List Text
  | [] => []
  | line :: lines => trim line :: if trim line = quit then [] else served lines

namespace SandboxSession

theorem execute_quit (session : SandboxSession) : (session.execute quit).1.ok = true := by
  have hwords : Text.words (trim quit) = [quit] := by decide
  unfold execute
  rw [hwords]
  rfl

def answers (session : SandboxSession) (commands : List Text) : List Text :=
  (machine.transcript session commands).map fun call => encodeSandboxResult call.output

theorem serve_eq (session : SandboxSession) (lines : List Text) :
    serve session lines = (0, Text.unlines (session.answers (served lines))) := by
  induction lines generalizing session with
  | nil => rfl
  | cons line lines ih =>
    unfold serve served
    dsimp only
    split
    · rename_i hquit
      rw [hquit, execute_quit, if_pos rfl]
      exact congrArg (Prod.mk 0) (List.append_nil _).symm
    · rw [ih]
      rfl

theorem newline_answer (result : SandboxResult) : Text.newline ∉ encodeSandboxResult result := by
  rw [encodeSandboxResult_eq]
  exact (Json.printable_render _).newline

theorem read_answer (result : SandboxResult) :
    Json.read (encodeSandboxResult result) = some result.answer.document := by
  rw [encodeSandboxResult_eq, Json.read_render]

theorem lines_answers (session : SandboxSession) (commands : List Text) :
    Text.lines (Text.unlines (session.answers commands)) = session.answers commands := by
  refine Text.lines_unlines fun line hline => ?_
  obtain ⟨call, -, rfl⟩ := List.mem_map.mp hline
  exact newline_answer call.output

end SandboxSession

/-- An answer that shows outputs only where the controller has them on. -/
structure SandboxAnswer.Honest (answer : SandboxAnswer) : Prop where
  tripped : answer.supervisorFault ≠ .none → answer.state = .fault
  starter : answer.starterActive = true → answer.state = .cranking
  ignition : answer.ignitionActive = true → answer.state = .preparing ∨
    answer.state = .cranking ∨ answer.state = .running ∨ answer.state = .awaitingTakeover

namespace SandboxSession

theorem honest_execute {session : SandboxSession}
    (h : Coherent session.state session.supervised) (line : Text) :
    (session.execute line).1.answer.Honest := by
  have hafter := coherent_execute h line
  unfold SandboxResult.answer
  rw [snapshot_execute]
  generalize (session.execute line).2 = after at hafter
  have hignition : after.driver.ignitionActive = after.supervisor.ignitionCommanded :=
    congrArg SandboxActuatorDriver.ignitionActive hafter.upright.mirrored
  have hstarter : after.driver.starterActive = after.supervisor.starterCommanded :=
    congrArg SandboxActuatorDriver.starterActive hafter.upright.mirrored
  have hcommanded : commanded after.supervisor = outputsOf after.state := hafter.commanded_eq
  refine ⟨hafter.propagated, fun hactive => ?_, fun hactive => ?_⟩
  · have hcranking : (outputsOf after.state).starter = true := by
      rw [← hcommanded]
      exact hstarter.symm.trans hactive
    exact beq_iff_eq.mp hcranking
  · have hkept : (outputsOf after.state).ignition = true := by
      rw [← hcommanded]
      exact hignition.symm.trans hactive
    exact keepsIgnition_iff.mp hkept

theorem honest_call {commands : List Text}
    {call : Step SandboxSession Text SandboxResult}
    (hcall : call ∈ machine.transcript new commands) : call.output.answer.Honest := by
  obtain ⟨earlier, later, hsplit⟩ := List.append_of_mem hcall
  obtain ⟨front, input, -, -, -, rfl⟩ := machine.transcript_split hsplit
  exact honest_execute (coherent_final front) input

end SandboxSession

end BmwRemote.Host
