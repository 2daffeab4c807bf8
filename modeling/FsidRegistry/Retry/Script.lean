import FsidRegistry.Retry.Run

/-!
Runs of an operation whose attempts are laid down beforehand, on a clock that jumps to the end of each
pause.
-/

namespace FsidRegistry.Retry

/-- One attempt that is laid down beforehand. -/
structure ScriptedAttempt (α : Type) where
  /-- How many nanoseconds it takes. -/
  takes : Nat
  /-- Whether the request is cancelled at its end. -/
  cancels : Bool
  outcome : Except StoreError α

namespace ScriptedAttempt

variable {α : Type}

/-- What happens in an attempt. -/
def events (a : ScriptedAttempt α) (draw : Nat) : List (Event α) :=
  .timePasses a.takes :: (if a.cancels then [.tokenCancelled] else []) ++
    [.attemptEnds a.outcome draw]

end ScriptedAttempt

namespace TimedRun

variable {α : Type}

/-- Makes the first attempt of the list and waits out the pause after it, until the run ends or `fuel`
attempts are made. The last attempt of the list is made again and again. Each pause is drawn from its
backoff by `draw`. -/
def runScript (draw : Backoff → Nat) : Nat → List (ScriptedAttempt α) → TimedRun α → TimedRun α
  | 0, _, p => p
  | _, [], p => p
  | fuel + 1, a :: rest, p =>
    match p.run.phase with
    | .attempting =>
      match p.steps? (a.events (draw p.run.backoff)) with
      | none => p
      | some p =>
        match p.run.phase with
        | .pausing wake =>
          match p.steps? [.timePasses (wake - p.now), .timerFires] with
          | none => p
          | some p => runScript draw fuel (if rest.isEmpty then [a] else rest) p
        | _ => p
    | _ => p

end TimedRun

end FsidRegistry.Retry
