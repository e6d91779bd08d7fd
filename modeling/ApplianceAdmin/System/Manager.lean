import ApplianceAdmin.Async.Prog
import ApplianceAdmin.Models

/-!
# The system manager

`SystemManager` of `managers/system.py`: child processes, the service handlers, reboot and poweroff,
and the hostname transaction.  A method is a program whose calls are those of the event loop and of
the subprocess layer; what a child does to the machine is not part of the program.

* `Call`, `Reply`: the calls and what they return;
* `runCommand`: one child process from its start to its exit, timeout and kill included;
* `waitForAvahiHostname`: the polling loop, with fuel for its iterations;
* `restoreHostname`, `hostnameSet`: the transaction and its rollback;
* `handler`: the table of `main.py` for the actions of this manager.
-/

namespace ApplianceAdmin.System

open Async Async.Prog Python

/-! ### Calls -/

/-- A call to the event loop or to the subprocess layer. -/
inductive Call
  /-- `asyncio.create_subprocess_exec(*argv, env=env)` with both outputs piped -/
  | spawn (argv : List String) (env : List (String × String))
  /-- `asyncio.wait_for(process.communicate(), timeout)` -/
  | communicate (pid : ℕ) (timeout : ℚ)
  /-- `process.kill()` -/
  | kill (pid : ℕ)
  /-- `process.wait()` -/
  | wait (pid : ℕ)
  /-- `asyncio.get_running_loop().time()` -/
  | time
  /-- `asyncio.sleep(seconds)` -/
  | sleep (seconds : ℚ)
  deriving DecidableEq

/-- A child that has exited: `returncode` and both outputs. -/
structure Completed where
  returncode : ℤ
  stdout : List UInt8
  stderr : List UInt8
  deriving DecidableEq

/-- What a call returns. -/
@[reducible] def Reply : Call → Type
  | .spawn _ _ => ℕ
  | .communicate _ _ => Completed
  | .kill _ => Unit
  | .wait _ => Unit
  | .time => ℚ
  | .sleep _ => Unit

/-- A coroutine of the manager. -/
abbrev Proc := Prog Reply Exc

def spawn (argv : List String) (env : List (String × String)) : Proc ℕ := perform (Call.spawn argv env)

def communicate (pid : ℕ) (timeout : ℚ) : Proc Completed := perform (Call.communicate pid timeout)

def kill (pid : ℕ) : Proc Unit := perform (Call.kill pid)

def wait (pid : ℕ) : Proc Unit := perform (Call.wait pid)

def time : Proc ℚ := ask Call.time

def sleep (seconds : ℚ) : Proc Unit := perform (Call.sleep seconds)

/-! ### Commands -/

/-- The environment of every child. -/
def commandEnv : List (String × String) :=
  [("PATH", "/usr/sbin:/usr/bin:/sbin:/bin"), ("LANG", "C.UTF-8")]

/-- `path.rsplit("/", 1)[-1]` -/
def baseName (path : String) : String := String.ofList (path.toList.rtakeWhile (· ≠ '/'))

/-- `stderr.decode(errors="replace").strip() or f"{command} failed"`, cut to 500 characters -/
def failureMessage (args : List String) (stderr : List UInt8) : String :=
  let message := strip (decodeReplace stderr)
  let command := (args.head?.map baseName).getD "command"
  String.ofList ((if message = "" then command ++ " failed" else message).toList.take 500)

/-- `SystemManager._run_command` -/
def runCommand (args : List String) (timeout : ℚ) : Proc String := do
  let process ← (spawn args commandEnv).tryCatch fun exc =>
    if exc.isFileNotFound then
      raise (.notFound ("Required executable not found: " ++ args.head?.getD "command"))
    else raise exc
  let completed ← (communicate process timeout).tryCatch fun exc =>
    if exc.isTimeout then do
      kill process
      wait process
      raise exc
    else raise exc
  if completed.returncode ≠ 0 then raise (.notFound (failureMessage args completed.stderr))
  else pure (strip (decodeReplace completed.stdout))

/-- `SystemManager._systemctl` -/
def systemctl (args : List String) (timeout : ℚ) : Proc String :=
  runCommand (["/usr/bin/systemctl", "--no-pager", "--no-ask-password"] ++ args) timeout

/-! ### Services -/

/-- The manager: its service allowlist. -/
structure SystemManager where
  allowedServices : List String

/-- `[A-Za-z0-9_.@:-]` -/
def isServiceChar (c : Char) : Bool := isAlnum c || c ∈ ['_', '.', '@', ':', '-']

/-- `_SERVICE_RE.fullmatch`: `[A-Za-z0-9_.@:-]+` and then `.service` -/
def serviceRe (cs : List Char) : Bool :=
  let body := cs.take (cs.length - 8)
  cs.drop (cs.length - 8) = ".service".toList && body ≠ [] && body.all isServiceChar

/-- `SystemManager._validate_service` -/
def validateService (m : SystemManager) (rt : Runtime) (raw : String) : Except Exc String :=
  match ServiceActionRequest.make rt raw with
  | .error e => .error e
  | .ok request =>
      if !serviceRe request.service.toList then .error (.validation "Invalid service unit name")
      else if request.service ∉ m.allowedServices then
        .error (.validation "Service is not in the daemon allowlist")
      else .ok request.service

/-- `str(params.get("service", ""))` -/
def serviceParam (rt : Runtime) (params : Dict) : String :=
  ((params.get? "service").getD (.str "")).toStr rt.toUnicode

/-- `systemctl` with the verb `verb` on a validated service: what start, stop and restart share -/
def serviceVerb (verb : String) (m : SystemManager) (rt : Runtime) (params : Dict) :
    Proc String := do
  let service ← lift (validateService m rt (serviceParam rt params))
  let _ ← systemctl [verb, service] 20
  return service

/-- `SystemManager.service_restart` -/
def serviceRestart : SystemManager → Runtime → Dict → Proc String := serviceVerb "restart"

/-- `SystemManager.service_start` -/
def serviceStart : SystemManager → Runtime → Dict → Proc String := serviceVerb "start"

/-- `SystemManager.service_stop` -/
def serviceStop : SystemManager → Runtime → Dict → Proc String := serviceVerb "stop"

/-- `dict(line.split("=", 1) for line in output.splitlines() if "=" in line)` -/
def showValues (output : String) : List (String × String) :=
  (splitlines output).filterMap (splitOnce '=')

/-- `values.get(key)`: a later line replaces an earlier one -/
def lastValue (values : List (String × String)) (key : String) : Option String :=
  (values.reverse.find? (·.1 = key)).map (·.2)

/-- `SystemManager.service_status` -/
def serviceStatus (m : SystemManager) (rt : Runtime) (params : Dict) : Proc ServiceStatus := do
  let service ← lift (validateService m rt (serviceParam rt params))
  let output ← systemctl ["show", service, "--property=ActiveState,SubState,UnitFileState"] 20
  let values := showValues output
  return {
    service
    activeState := (lastValue values "ActiveState").getD "unknown"
    subState := (lastValue values "SubState").getD "unknown"
    unitFileState := (lastValue values "UnitFileState").filter (· ≠ "") }

/-! ### Power -/

/-- `SystemManager.reboot` -/
def reboot (params : Dict) : Proc Unit := do
  if params ≠ [] then raise (.validation "Reboot does not accept parameters")
  else do
    let _ ← systemctl ["reboot"] 5
    return ()

/-- `SystemManager.poweroff` -/
def poweroff (params : Dict) : Proc Unit := do
  if params ≠ [] then raise (.validation "Poweroff does not accept parameters")
  else do
    let _ ← systemctl ["poweroff"] 5
    return ()

end ApplianceAdmin.System
