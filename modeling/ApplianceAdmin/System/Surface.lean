import ApplianceAdmin.Async.Pool
import ApplianceAdmin.System.Report

/-!
# The command surface

What the handlers of the manager can hand to the subprocess layer, whatever the requests contain
and whatever the commands print.

* `Surface`: the shapes of an argument list, given the request and the steps before it;
* `Runs`: the argument lists that a program can ever hand over;
* `Valid`: the parameters pass the checks of their action;
* `surface_closed`: in any pool of requests every argument list has one of the shapes, and a request
  that fails its checks runs nothing.
-/

namespace ApplianceAdmin.System

open Async Async.Prog Python

/-! ### Service names -/

theorem serviceRe_spec {cs : List Char} (h : serviceRe cs = true) :
    ∃ body, cs = body ++ ".service".toList ∧ body ≠ [] ∧ ∀ c ∈ body, isServiceChar c = true := by
  simp only [serviceRe, Bool.and_eq_true, decide_eq_true_eq, List.all_eq_true] at h
  obtain ⟨⟨hend, hne⟩, hall⟩ := h
  exact ⟨_, by rw [← hend, List.take_append_drop], hne, hall⟩

/-- A service name contains a `v` and ends with an `e`. -/
theorem serviceRe_letters {cs : List Char} (h : serviceRe cs = true) :
    'v' ∈ cs ∧ cs.getLast? = some 'e' := by
  obtain ⟨body, rfl, -, -⟩ := serviceRe_spec h
  exact ⟨List.mem_append_right _ (by decide), by rw [List.getLast?_append]; rfl⟩

theorem isDigit_or_minus_of_mem_toString {n : ℤ} {c : Char} (h : c ∈ (toString n).toList) :
    c.isDigit = true ∨ c = '-' := by
  have hdigit : ∀ {m : ℕ} {c : Char}, c ∈ m.repr.toList → c.isDigit = true := fun {m c} hc => by
    rw [Nat.repr, String.toList_ofList] at hc
    exact Nat.isDigit_of_mem_toDigits (by decide) (by decide) hc
  cases n with
  | ofNat m => exact .inl (hdigit h)
  | negSucc m =>
    rw [show toString (Int.negSucc m) = "-" ++ m.succ.repr from rfl, String.toList_append,
      List.mem_append] at h
    exact h.elim (fun hc => .inr (List.mem_singleton.1 hc)) fun hc => .inl (hdigit hc)

/-- Only a text is written like a service name. -/
theorem eq_str_of_serviceRe {U : Unicode} {v : Value} (h : serviceRe (v.toStr U).toList = true) :
    v = .str (v.toStr U) := by
  obtain ⟨hv, hlast⟩ := serviceRe_letters h
  cases v with
  | str s => rfl
  | none =>
    rw [Value.toStr_none] at hv
    exact absurd hv (by decide)
  | bool b =>
    rw [Value.toStr_bool] at hv
    cases b <;> exact absurd hv (by decide)
  | int n =>
    rw [Value.toStr_int] at hv
    rcases isDigit_or_minus_of_mem_toString hv with h | h <;> exact absurd h (by decide)
  | float x =>
    rw [Value.toStr_float] at hv
    rcases x.repr_chars _ hv with h | h <;> exact absurd h (by decide)
  | bytes bs =>
    rw [Value.toStr_bytes, Value.bytesRepr, String.toList_ofList, List.getLast?_concat] at hlast
    split_ifs at hlast <;> exact absurd hlast (by decide)
  | list xs =>
    obtain ⟨inner, hrepr⟩ := Value.toStr_list U xs
    have hbracket : (inner ++ "]").toList.getLast? = some ']' := getLast?_append_of_eq_some rfl
    rw [hrepr, hbracket] at hlast
    exact absurd hlast (by decide)
  | dict kv =>
    obtain ⟨inner, hrepr⟩ := Value.toStr_dict U kv
    have hbrace : (inner ++ "\x7d").toList.getLast? = some '\x7d' := getLast?_append_of_eq_some rfl
    rw [hrepr, hbrace] at hlast
    exact absurd hlast (by decide)

/-- The service of a request is the text of its parameter. -/
theorem get?_service {rt : Runtime} {params : Dict}
    (h : serviceRe (serviceParam rt params).toList = true) :
    params.get? "service" = some (.str (serviceParam rt params)) := by
  unfold serviceParam at h ⊢
  cases hv : params.get? "service" with
  | none =>
    rw [hv] at h
    exact absurd h (show ¬serviceRe "".toList = true by decide)
  | some v => rw [hv] at h; exact congrArg some (eq_str_of_serviceRe h)

/-! ### Shapes of argument lists -/

section Shapes

variable (m : SystemManager) (rt : Runtime) (params : Dict)

/-- The unit is in the allowlist, has the form of a service name and is the service that was asked
for. -/
structure IsUnit (unit : String) : Prop where
  allowed : unit ∈ m.allowedServices
  form : serviceRe unit.toList = true
  requested : params.get? "service" = some (.str unit)

/-- The name is the requested one in lower case and a label, or the trimmed lower case of what
`/usr/bin/hostname` has printed. -/
def IsHostname (earlier : List Step) (hostname : String) : Prop :=
  (∃ request, HostnameSetRequest.validate rt params = .ok request ∧
    hostname = rt.lower request.hostname ∧ IsLabel hostname) ∨
  ∃ completed, .ran ["/usr/bin/hostname"] (.exited completed) ∈ earlier ∧
    completed.returncode = 0 ∧ hostname = rt.lower completed.output

def systemctlArgs (args : List String) : List String :=
  ["/usr/bin/systemctl", "--no-pager", "--no-ask-password"] ++ args

/-- The argument lists that a request may hand over after the steps `earlier`. -/
inductive Surface (earlier : List Step) : List String → Prop
  | verb {verb unit : String} :
      verb ∈ ["restart", "start", "stop"] → IsUnit m params unit →
      Surface earlier (systemctlArgs [verb, unit])
  | status {unit : String} :
      IsUnit m params unit →
      Surface earlier (systemctlArgs ["show", unit, "--property=ActiveState,SubState,UnitFileState"])
  | power {verb : String} :
      verb ∈ ["reboot", "poweroff"] → Surface earlier (systemctlArgs [verb])
  | avahi {method : String} :
      method ∈ ["GetState", "GetHostNameFqdn"] → Surface earlier (avahiArgs method)
  | read : Surface earlier ["/usr/bin/hostname"]
  | linux {hostname : String} :
      IsHostname rt params earlier hostname → Surface earlier (hostnamectlArgs hostname)
  | mdns {hostname : String} :
      IsHostname rt params earlier hostname → Surface earlier (avahiSetArgs hostname)

/-- The parameters pass the checks of their action. -/
def Valid (action : String) : Prop :=
  match action with
  | "hostname.set" => ∃ request, HostnameSetRequest.validate rt params = .ok request
  | "service.status" | "service.start" | "service.stop" | "service.restart" =>
      ∃ unit, validateService m rt (serviceParam rt params) = .ok unit
  | _ => params = []

/-- A service that is validated is the one that was asked for. -/
theorem validateService_spec {m : SystemManager} {rt : Runtime} {raw unit : String}
    (h : validateService m rt raw = .ok unit) :
    unit = raw ∧ unit ∈ m.allowedServices ∧ serviceRe unit.toList = true ∧ 1 ≤ unit.length ∧
      unit.length ≤ 128 := by
  unfold validateService at h
  split at h
  · cases h
  · rename_i request hmake
    have hservice : request.service = raw ∧ 1 ≤ request.service.length ∧
        request.service.length ≤ 128 := by
      unfold ServiceActionRequest.make strField at hmake
      split at hmake
      · rename_i service hcheck
        cases hmake
        obtain ⟨rfl, hmin, hmax, -⟩ := checkText_eq_ok_iff.1 hcheck
        exact ⟨rfl, hmin, hmax⟩
      · cases hmake
    split_ifs at h with hre hin
    cases h
    exact ⟨hservice.1, by simpa using hin, by simpa using hre, hservice.2⟩

theorem isUnit_of_validateService {m : SystemManager} {rt : Runtime} {params : Dict} {unit : String}
    (h : validateService m rt (serviceParam rt params) = .ok unit) : IsUnit m params unit := by
  obtain ⟨rfl, hallowed, hform, -⟩ := validateService_spec h
  exact ⟨hallowed, hform, get?_service hform⟩

end Shapes

/-! ### The argument lists of a program -/

/-- Every argument list that `p` can hand over satisfies `A`. -/
def Runs {α : Type} (A : List String → Prop) : Proc α → Prop :=
  Calls fun c => ∀ argv env, c = .spawn argv env → A argv

section Runs

variable {A : List String → Prop} {rt : Runtime} {fuel : ℕ}

theorem runs_runCommand {args : List String} {t : ℚ} (h : A args) : Runs A (runCommand args t) := by
  refine calls_bind (calls_tryCatch ((calls_perform _).2 ?_) fun exc => ?_) fun pid => ?_
  · rintro argv env ⟨⟩
    exact h
  · split_ifs <;> trivial
  refine calls_bind (calls_tryCatch ((calls_perform _).2 (by simp)) fun exc => ?_) fun completed => ?_
  · split_ifs
    · exact calls_bind ((calls_perform _).2 (by simp)) fun _ =>
        calls_bind ((calls_perform _).2 (by simp)) fun _ => trivial
    · trivial
  · split_ifs <;> trivial

/-- Polling asks for the state and the name. -/
theorem runs_waitForAvahiHostname (hstate : A (avahiArgs "GetState"))
    (hfqdn : A (avahiArgs "GetHostNameFqdn")) : Runs A (waitForAvahiHostname rt fuel) := by
  have hattempt : Runs A (avahiAttempt rt) := by
    refine calls_bind (runs_runCommand hstate) fun reply => calls_bind trivial fun state => ?_
    split_ifs
    · exact calls_bind (runs_runCommand hfqdn) fun reply => trivial
    · trivial
  refine calls_bind ((calls_ask _).2 (by simp)) fun now => ?_
  generalize (none : Option Exc) = lastError
  induction fuel generalizing lastError with
  | zero => trivial
  | succ fuel ih =>
    refine calls_bind (calls_tryCatch (calls_bind hattempt fun _ => trivial) fun exc => ?_)
      fun outcome => ?_
    · split_ifs <;> trivial
    · match outcome with
      | (some hostname, _) => trivial
      | (none, lastError) =>
        refine calls_bind ((calls_ask _).2 (by simp)) fun now' => ?_
        split_ifs
        · trivial
        · exact calls_bind ((calls_perform _).2 (by simp)) fun _ => ih lastError

variable {hostname : String}

/-- What a rollback and what the publication of a name may run. -/
structure NameCommands (A : List String → Prop) (hostname : String) : Prop where
  state : A (avahiArgs "GetState")
  fqdn : A (avahiArgs "GetHostNameFqdn")
  linux : A (hostnamectlArgs hostname)
  avahi : A (avahiSetArgs hostname)

theorem runs_publish (h : NameCommands A hostname) : Runs A (publish rt fuel hostname) := by
  refine calls_bind (runs_runCommand h.avahi) fun _ =>
    calls_bind (runs_waitForAvahiHostname h.state h.fqdn) fun published => ?_
  split_ifs <;> trivial

theorem runs_restoreHostname (h : NameCommands A hostname) :
    Runs A (restoreHostname rt fuel hostname) := by
  refine calls_bind (calls_tryCatch (calls_bind (runs_runCommand h.linux) fun _ => trivial)
    fun exc => ?_) fun linuxErrors => calls_bind (calls_tryCatch ?_ fun exc => ?_) fun _ => trivial
  · split_ifs <;> trivial
  · refine calls_bind (runs_runCommand h.avahi) fun _ =>
      calls_bind (runs_waitForAvahiHostname h.state h.fqdn) fun restored => ?_
    split_ifs <;> trivial
  · split_ifs <;> trivial

end Runs

/-! ### Requests -/

section Requests

variable (m : SystemManager) (rt : Runtime) (params : Dict)

/-- The monitor that asks of every argument list that it has one of the shapes. -/
def surface : Monitor Reply Exc Record :=
  .ofFold (fun s c => ∀ argv env, c = .spawn argv env → Surface m rt params s.steps argv)
    (fun _ _ => True) Record.next

variable {m rt params}

/-- Steps are only added to a record. -/
theorem Record.mem_next {s : Record} {e : Event Reply Exc} {x : Step} (h : x ∈ s.steps) :
    x ∈ (s.next e).steps := by
  have hclose : ∀ ended, x ∈ (s.close ended).steps := fun ended => by
    unfold Record.close
    split
    · exact List.mem_append_left _ h
    · exact h
  obtain ⟨c, r⟩ := e
  cases c <;> cases r <;> simp only [Record.next] <;> try split
  all_goals first | exact h | exact hclose _ | exact List.mem_append_left _ h

variable (m rt params) in
/-- The argument list has one of the shapes whatever the steps before it are. -/
def Always (argv : List String) : Prop := ∀ earlier, Surface m rt params earlier argv

/-- Programs whose argument lists always have one of the shapes. -/
theorem surface_of_runs {α : Type} {p : Proc α} {s : Record} (h : Runs (Always m rt params) p) :
    (surface m rt params).wp p (fun _ _ => True) s :=
  Monitor.wp_of_calls (P := fun _ => True) (fun s _ hc _ argv env he => hc argv env he s.steps)
    (fun _ _ _ _ _ _ _ => trivial) h trivial

section Services

variable {A : List String → Prop}

theorem runs_serviceVerb {verb : String}
    (h : ∀ unit, validateService m rt (serviceParam rt params) = .ok unit →
      A (systemctlArgs [verb, unit])) : Runs A (serviceVerb verb m rt params) := by
  rw [serviceVerb]
  cases hv : validateService m rt (serviceParam rt params) with
  | error e => trivial
  | ok unit =>
    exact calls_bind (p := systemctl [verb, unit] 20) (runs_runCommand (h unit hv)) fun _ => trivial

theorem runs_serviceStatus
    (h : ∀ unit, validateService m rt (serviceParam rt params) = .ok unit →
      A (systemctlArgs ["show", unit, "--property=ActiveState,SubState,UnitFileState"])) :
    Runs A (serviceStatus m rt params) := by
  rw [serviceStatus]
  cases hv : validateService m rt (serviceParam rt params) with
  | error e => trivial
  | ok unit =>
    exact calls_bind (p := systemctl _ 20) (runs_runCommand (h unit hv)) fun _ => trivial

end Services

theorem always_verb {verb : String} (hverb : verb ∈ ["restart", "start", "stop"]) (unit : String)
    (h : validateService m rt (serviceParam rt params) = .ok unit) :
    Always m rt params (systemctlArgs [verb, unit]) :=
  fun _ => .verb hverb (isUnit_of_validateService h)

theorem always_status (unit : String)
    (h : validateService m rt (serviceParam rt params) = .ok unit) : Always m rt params
      (systemctlArgs ["show", unit, "--property=ActiveState,SubState,UnitFileState"]) :=
  fun _ => .status (isUnit_of_validateService h)

/-- The name that the request has read, as the record shows it. -/
def HasRead (rt : Runtime) (original : String) (l : List Step) : Prop :=
  ∃ completed, .ran ["/usr/bin/hostname"] (.exited completed) ∈ l ∧ completed.returncode = 0 ∧
    original = rt.lower completed.output

theorem surface_readHostname :
    (surface m rt params).wp (readHostname rt)
      (fun r s => ∀ original, r = .ok original → HasRead rt original s.steps) (.rest []) := by
  have hruns : Runs (· = ["/usr/bin/hostname"]) (readHostname rt) := by
    refine calls_tryCatch (calls_bind (runs_runCommand rfl) fun _ => trivial) fun exc => ?_
    split_ifs <;> trivial
  have hrecord : recorder.wp (readHostname rt)
      (fun r s => ∀ original, r = .ok original → HasRead rt original s.steps) (.rest []) := by
    refine wp_readHostname fun ended original hr => ?_
    obtain ⟨out, ho, rfl⟩ := readOutcome_eq_ok_iff.1 hr
    obtain ⟨completed, rfl, hrc, rfl⟩ := result_eq_ok_iff.1 ho
    exact ⟨completed, by simp [Record.rest], hrc, by rw [Completed.output, strip_strip]⟩
  have hpre : ∀ (s : Record) (c : Call), (∀ argv env, c = .spawn argv env →
      argv = ["/usr/bin/hostname"]) → (surface m rt params).pre s c := by
    intro s c hc argv env he
    rw [hc argv env he]
    exact .read
  exact Monitor.wp_restrict (M := recorder) hpre (fun _ _ _ _ h => h) hruns hrecord

theorem HasRead.mem_next {original : String} {s : Record} {e : Event Reply Exc}
    (h : HasRead rt original s.steps) : HasRead rt original (s.next e).steps := by
  obtain ⟨completed, hmem, h⟩ := h
  exact ⟨completed, Record.mem_next hmem, h⟩

variable (m rt params) in
/-- The argument list has one of the shapes once the original name has been read. -/
def AfterRead (original : String) (argv : List String) : Prop :=
  ∀ earlier, HasRead rt original earlier → Surface m rt params earlier argv

theorem nameCommands_afterRead {original hostname : String}
    (h : ∀ earlier, HasRead rt original earlier → IsHostname rt params earlier hostname) :
    NameCommands (AfterRead m rt params original) hostname where
  state _ _ := .avahi (by simp)
  fqdn _ _ := .avahi (by simp)
  linux earlier hread := .linux (h earlier hread)
  avahi earlier hread := .mdns (h earlier hread)

theorem surface_of_afterRead {α : Type} {original : String} {p : Proc α} {s : Record}
    (h : Runs (AfterRead m rt params original) p) (hread : HasRead rt original s.steps) :
    (surface m rt params).wp p (fun _ _ => True) s := by
  have hkept : (surface m rt params).wp p (fun _ s => HasRead rt original s.steps) s := by
    refine Monitor.wp_of_calls (fun s c hc hP argv env he => hc argv env he s.steps hP) ?_ h hread
    rintro s c r s' - hP ⟨-, rfl⟩
    exact hP.mem_next
  exact Monitor.wp_mono hkept fun _ _ _ => trivial

theorem surface_hostnameSet {fuel : ℕ} :
    (surface m rt params).wp (hostnameSet rt fuel params) (fun _ _ => True) (.rest []) := by
  rw [hostnameSet, Monitor.wp_bind, Monitor.wp_lift]
  cases hv : HostnameSetRequest.validate rt params with
  | error e => trivial
  | ok request =>
    rw [Monitor.andThen_ok, Monitor.wp_bind]
    refine Monitor.wp_mono surface_readHostname fun r s hread => ?_
    cases r with
    | error e => trivial
    | ok original =>
      have hreq : NameCommands (AfterRead m rt params original) (rt.lower request.hostname) :=
        nameCommands_afterRead fun _ _ =>
          .inl ⟨request, hv, rfl, HostnameSetRequest.isLabel_lower hv⟩
      have horig : NameCommands (AfterRead m rt params original) original :=
        nameCommands_afterRead fun _ hread => .inr hread
      have hfail : ∀ {α : Type} (what exc), Runs (AfterRead m rt params original)
          (failAfterRollback (α := α) rt fuel original what exc) := fun what exc =>
        calls_bind (runs_restoreHostname horig) fun _ => trivial
      -- what was read stays in the record, and every later command may rely on it
      refine surface_of_afterRead ?_ (hread original rfl)
      · refine calls_bind (calls_tryCatch (calls_bind (runs_runCommand hreq.linux) fun _ => trivial)
          fun exc => ?_) fun _ => calls_bind (calls_tryCatch (runs_publish hreq) fun exc => ?_)
          fun _ => trivial
        · split_ifs
          · exact hfail _ _
          · trivial
        · split_ifs
          · exact hfail _ _
          · trivial

/-- A handler is one method of the manager, whose result it wraps. -/
theorem surface_map {α : Type} {p : Proc α} {f : α → Result} {s : Record}
    (h : (surface m rt params).wp p (fun _ _ => True) s) :
    (surface m rt params).wp (do return f (← p)) (fun _ _ => True) s := by
  rw [Monitor.wp_bind]
  refine Monitor.wp_mono h fun r s' _ => ?_
  cases r <;> trivial

theorem runs_power {verb : String} (hverb : verb ∈ ["reboot", "poweroff"]) {message : String} :
    Runs (Always m rt params) (if params ≠ [] then raise (.validation message) else do
      let _ ← systemctl [verb] 5
      return () : Proc Unit) := by
  split_ifs
  · trivial
  · have hargs : Always m rt params (systemctlArgs [verb]) := fun _ => .power hverb
    exact calls_bind (p := systemctl [verb] 5) (runs_runCommand hargs) fun _ => trivial

/-- Every argument list of a handler has one of the shapes. -/
theorem handler_surface {fuel : ℕ} {action : String} {p : Proc Result}
    (h : handler m rt fuel action params = some p) :
    (surface m rt params).wp p (fun _ _ => True) (.rest []) := by
  unfold handler at h
  split at h <;> cases h
  · refine surface_map (surface_of_runs ?_)
    rw [capabilities]
    split_ifs <;> trivial
  · exact surface_map (surface_of_runs (runs_power (by simp)))
  · exact surface_map (surface_of_runs (runs_power (by simp)))
  · exact surface_map surface_hostnameSet
  · exact surface_map (surface_of_runs (runs_serviceStatus always_status))
  · exact surface_map (surface_of_runs (runs_serviceVerb (always_verb (by simp))))
  · exact surface_map (surface_of_runs (runs_serviceVerb (always_verb (by simp))))
  · exact surface_map (surface_of_runs (runs_serviceVerb (always_verb (by simp))))

/-- A request that fails its checks ends before its first call. -/
theorem handler_invalid {fuel : ℕ} {action : String} {p : Proc Result}
    (h : handler m rt fuel action params = some p) (hv : ¬Valid m rt params action) :
    ∃ exc, p = .done (.error exc) := by
  have hservice : ∀ {α : Type} {f : String → Proc α} {g : α → Result},
      (¬∃ unit, validateService m rt (serviceParam rt params) = .ok unit) →
      ∃ exc, (do return g (← lift (validateService m rt (serviceParam rt params)) >>= f) :
        Proc Result) = .done (.error exc) := by
    intro α f g hno
    cases hr : validateService m rt (serviceParam rt params) with
    | ok unit => exact absurd ⟨unit, hr⟩ hno
    | error exc => exact ⟨exc, rfl⟩
  unfold handler at h
  split at h <;> cases h
  · rw [capabilities, if_pos (show params ≠ [] from hv)]
    exact ⟨_, rfl⟩
  · rw [reboot, if_pos (show params ≠ [] from hv)]
    exact ⟨_, rfl⟩
  · rw [poweroff, if_pos (show params ≠ [] from hv)]
    exact ⟨_, rfl⟩
  · rw [hostnameSet]
    cases hr : HostnameSetRequest.validate rt params with
    | ok request => exact absurd ⟨request, hr⟩ hv
    | error exc => exact ⟨exc, rfl⟩
  all_goals exact hservice hv

/-! ### Pools of requests -/

/-- Does the caller wait for the call? -/
def Call.awaited : Call → Bool
  | .kill _ => false
  | .time => false
  | _ => true

/-- Surroundings that may answer anything: the world is the answers of the moment. -/
def anyEnv : Env Reply Exc ((c : Call) → Except Exc (Reply c)) where
  yields := Call.awaited
  issue _ _ w := w
  answer _ c w := w c
  legal _ _ _ _ := true
  apply _ _ _ w := w
  tau _ _ := True

variable (m rt) in
/-- The program of a request for an action with these parameters -/
def IsRequest (request : String × Dict) (p : Proc Result) : Prop :=
  ∃ fuel, handler m rt fuel request.1 request.2 = some p

/-- The task that has the answers `tr` and is at `p` has handed `argv` over, after `before`. -/
def Handed (tr : List (Event Reply Exc)) (p : Proc Result) (before : List (Event Reply Exc))
    (argv : List String) : Prop :=
  (∃ env k, p = .call (.spawn argv env) k ∧ before = tr) ∨
    ∃ env reply after, tr = before ++ ⟨.spawn argv env, reply⟩ :: after

/-- **The command surface is closed.**  In every pool of requests, whatever is answered and in
whatever order, each request has handed over argument lists of the shapes that it may only, and none
at all when its parameters fail their checks. -/
theorem surface_closed {w₀ : (c : Call) → Except Exc (Reply c)} {requests : List (String × Dict)}
    {a : Config Reply Exc Result (((c : Call) → Except Exc (Reply c)) × (Tid → List (Event Reply Exc)))}
    (h : anyEnv.traced.Serves (IsRequest m rt) (w₀, fun _ => []) requests a) {i : Tid}
    {action : String} {params : Dict} (hi : requests[i]? = some (action, params)) :
    ∃ p, a.tasks[i]? = some p ∧ ∀ before argv, Handed (a.world.2 i) p before argv →
      Valid m rt params action ∧ Surface m rt params (steps before) argv := by
  obtain ⟨p, p₀, hp, ⟨fuel, hp₀⟩, hpath⟩ := (anyEnv.serves_path h).1 i _ hi
  refine ⟨p, hp, fun before argv hhanded => ?_⟩
  -- where the task stood when it handed the arguments over
  have hat : ∃ env k, Path p₀ before (.call (.spawn argv env) k) := by
    rcases hhanded with ⟨env, k, rfl, rfl⟩ | ⟨env, reply, after, htr⟩
    · exact ⟨env, k, hpath⟩
    · rw [htr] at hpath
      exact ⟨env, hpath.at_event⟩
  obtain ⟨env, k, hat⟩ := hat
  refine ⟨?_, Monitor.wp_pre hat (Monitor.trail_ofFold _ before) (handler_surface hp₀) argv env rfl⟩
  by_contra hv
  obtain ⟨exc, rfl⟩ := handler_invalid hp₀ hv
  cases hat.of_done.2

/-- A request for the name `new`, which begins by handing over `/usr/bin/hostname`, and a request to
reboot that fails its check -/
def someRequests : List (String × Dict) :=
  [("hostname.set", newParams), ("system.reboot", [("now", .bool true)])]

def someTasks : List (Proc Result) :=
  [do return .hostname (← hostnameSet .ascii 1 newParams),
    .done (.error (.validation "Reboot does not accept parameters"))]

theorem surface_closed_new :
    Handed [] (someTasks.getD 0 .spin) [] ["/usr/bin/hostname"] ∧
    (∀ before argv, Handed [] (someTasks.getD 0 .spin) before argv →
      Valid ⟨[]⟩ .ascii newParams "hostname.set" ∧
        Surface ⟨[]⟩ .ascii newParams (steps before) argv) ∧
    ∀ before argv, ¬Handed [] (someTasks.getD 1 .spin) before argv := by
  have hserves : anyEnv.traced.Serves (IsRequest ⟨[]⟩ .ascii)
      (fun _ => .error .cancelled, fun _ => []) someRequests
      ⟨(fun _ => .error .cancelled, fun _ => []), someTasks⟩ :=
    .spawn (.spawn .init ⟨1, rfl⟩ rfl) ⟨1, rfl⟩ rfl
  refine ⟨.inl ⟨commandEnv, _, rfl, rfl⟩, ?_, fun before argv hhanded => ?_⟩
  · obtain ⟨p, hp, hsurface⟩ := surface_closed hserves (i := 0) rfl
    cases hp
    exact hsurface
  · obtain ⟨p, hp, hsurface⟩ := surface_closed hserves (i := 1) rfl
    cases hp
    exact absurd (hsurface before argv hhanded).1 (by simp [Valid])

end Requests

end ApplianceAdmin.System
