import ApplianceAdmin.System.Surface

/-!
# Unit names

What a service name that has passed its checks is to `systemctl`.

* `PlainUnit`: a unit name that is one plain positional argument; `Positional`: the handlers of the
  services hand it over as one;
* `plain_iff`: a name that has passed is plain exactly when it does not begin with a hyphen.
-/

namespace ApplianceAdmin.System

open Async Async.Prog Python

/-! ### Arguments of `systemctl` -/

/-- An argument that is read as an option, or as several -/
def isOption (arg : String) : Bool := arg.toList.head? = some '-' && arg ≠ "-"

/-- The arguments that are left for the verb and its units -/
def operands (argv : List String) : List String := argv.tail.filter (!isOption ·)

/-- Characters that stand for something else in a path, a pattern or a shell command -/
def metacharacters : List Char := "/*?[]\x7b\x7d();&|<>$\x60\\\"'~#!%^=,+".toList

/-- A unit name that is one plain positional argument, in the allowlist. -/
structure PlainUnit (m : SystemManager) (unit : String) : Prop where
  allowed : unit ∈ m.allowedServices
  length_pos : 1 ≤ unit.length
  length_le : unit.length ≤ 128
  suffix : ∃ stem, unit = stem ++ ".service"
  spaceless : ∀ c ∈ unit.toList, isSpace c = false
  /-- Neither a control character nor one beyond ASCII -/
  printable : ∀ c ∈ unit.toList, 0x20 < c.toNat ∧ c.toNat < 0x7F
  literal : ∀ c ∈ unit.toList, c ∉ metacharacters
  head : unit.toList.head? ≠ some '-'

/-- The verb that an action on a service has in `systemctl` -/
def serviceVerbs : List (String × String) :=
  [("service.start", "start"), ("service.stop", "stop"), ("service.restart", "restart"),
    ("service.status", "show")]

/-- Every command of the four handlers has the verb and the unit for its operands. -/
def Positional (m : SystemManager) (rt : Runtime) (params : Dict) (unit : String) : Prop :=
  ∀ action verb, (action, verb) ∈ serviceVerbs → ∀ fuel p,
    handler m rt fuel action params = some p → ∀ tr q, Path p tr q →
      ∀ e ∈ tr, ∀ argv env, e.call = .spawn argv env → operands argv = [verb, unit]

/-! ### Characters of a unit -/

section Characters

variable {c : Char}

theorem isServiceChar_range (h : isServiceChar c = true) :
    (45 ≤ c.toNat ∧ c.toNat ≤ 46) ∨ (48 ≤ c.toNat ∧ c.toNat ≤ 58) ∨
      (64 ≤ c.toNat ∧ c.toNat ≤ 90) ∨ c.toNat = 95 ∨ (97 ≤ c.toNat ∧ c.toNat ≤ 122) := by
  simp only [isServiceChar, isAlnum, Bool.or_eq_true, isUpper_iff, isLower_iff, isDigit_iff,
    decide_eq_true_eq, List.mem_cons, List.not_mem_nil, or_false] at h
  rcases h with ((h | h) | h) | rfl | rfl | rfl | rfl | rfl
  · omega
  · omega
  · omega
  all_goals decide

theorem isSpace_of_isServiceChar (h : isServiceChar c = true) : isSpace c = false := by
  have hrange := isServiceChar_range h
  simp [isSpace]
  omega

theorem printable_of_isServiceChar (h : isServiceChar c = true) :
    0x20 < c.toNat ∧ c.toNat < 0x7F := by
  have hrange := isServiceChar_range h
  omega

theorem literal_of_isServiceChar (h : isServiceChar c = true) : c ∉ metacharacters := by
  have hmeta : metacharacters.all (fun d => !isServiceChar d) = true := by decide
  intro hc
  have hnot := List.all_eq_true.1 hmeta c hc
  rw [h] at hnot
  cases hnot

/-- Every character of a service name is one of its class. -/
theorem isServiceChar_of_serviceRe {cs : List Char} (h : serviceRe cs = true) :
    ∀ c ∈ cs, isServiceChar c = true := by
  obtain ⟨body, rfl, -, hbody⟩ := serviceRe_spec h
  have hsuffix : ".service".toList.all isServiceChar = true := by decide
  exact List.forall_mem_append.2 ⟨hbody, List.all_eq_true.1 hsuffix⟩

end Characters

/-! ### Validated units -/

section Units

variable {m : SystemManager} {rt : Runtime} {raw unit : String} {params : Dict}

theorem plain_of_validateService (h : validateService m rt raw = .ok unit)
    (hhead : unit.toList.head? ≠ some '-') : PlainUnit m unit := by
  obtain ⟨-, hallowed, hform, hmin, hmax⟩ := validateService_spec h
  have hchars := isServiceChar_of_serviceRe hform
  refine ⟨hallowed, hmin, hmax, ?_, fun c hc => isSpace_of_isServiceChar (hchars c hc),
    fun c hc => printable_of_isServiceChar (hchars c hc),
    fun c hc => literal_of_isServiceChar (hchars c hc), hhead⟩
  obtain ⟨body, hbody, -, -⟩ := serviceRe_spec hform
  refine ⟨String.ofList body, String.toList_injective ?_⟩
  rw [hbody, String.toList_append, @String.toList_ofList body]

theorem isOption_eq_false {arg : String} (h : arg.toList.head? ≠ some '-') :
    isOption arg = false := by
  simp [isOption, h]

theorem operands_verb {verb : String} (hverb : isOption verb = false)
    (hunit : isOption unit = false) :
    operands (systemctlArgs [verb, unit]) = [verb, unit] := by
  have hpager : isOption "--no-pager" = true := by decide
  have hask : isOption "--no-ask-password" = true := by decide
  simp [operands, systemctlArgs, hpager, hask, hverb, hunit]

theorem operands_status (hunit : isOption unit = false) :
    operands (systemctlArgs ["show", unit, "--property=ActiveState,SubState,UnitFileState"]) =
      ["show", unit] := by
  have hpager : isOption "--no-pager" = true := by decide
  have hask : isOption "--no-ask-password" = true := by decide
  have hshow : isOption "show" = false := by decide
  have hproperty : isOption "--property=ActiveState,SubState,UnitFileState" = true := by decide
  simp [operands, systemctlArgs, hpager, hask, hshow, hproperty, hunit]

theorem calls_map {α β : Type} {S : Call → Prop} {p : Proc α} {f : α → β} (h : Calls S p) :
    Calls S (do return f (← p)) := calls_bind h fun _ => trivial

theorem positional_of_validateService
    (h : validateService m rt (serviceParam rt params) = .ok unit)
    (hhead : unit.toList.head? ≠ some '-') : Positional m rt params unit := by
  have hunit := isOption_eq_false hhead
  have hverb : ∀ verb, isOption verb = false →
      Runs (fun argv => operands argv = [verb, unit]) (serviceVerb verb m rt params) := by
    intro verb hverb
    refine runs_serviceVerb fun unit' h' => ?_
    rw [h] at h'
    cases h'
    exact operands_verb hverb hunit
  have hstatus : Runs (fun argv => operands argv = ["show", unit]) (serviceStatus m rt params) := by
    refine runs_serviceStatus fun unit' h' => ?_
    rw [h] at h'
    cases h'
    exact operands_status hunit
  intro action verb haction fuel p hp tr q hpath e he
  simp only [serviceVerbs, List.mem_cons, Prod.mk.injEq, List.not_mem_nil, or_false] at haction
  rcases haction with ⟨rfl, rfl⟩ | ⟨rfl, rfl⟩ | ⟨rfl, rfl⟩ | ⟨rfl, rfl⟩
  · cases hp
    exact hpath.calls (calls_map (hverb "start" (by decide))) e he
  · cases hp
    exact hpath.calls (calls_map (hverb "stop" (by decide))) e he
  · cases hp
    exact hpath.calls (calls_map (hverb "restart" (by decide))) e he
  · cases hp
    exact hpath.calls (calls_map hstatus) e he

/-- **A service name that has passed is one plain positional argument exactly when it does not
begin with a hyphen.** -/
theorem plain_iff (h : validateService m rt raw = .ok unit) :
    (PlainUnit m unit ∧ ∀ params, serviceParam rt params = raw → Positional m rt params unit) ↔
      raw.toList.head? ≠ some '-' := by
  obtain ⟨rfl, -⟩ := validateService_spec h
  constructor
  · intro hplain
    exact hplain.1.head
  · intro hhead
    refine ⟨plain_of_validateService h hhead, fun params hparams => ?_⟩
    rw [← hparams] at h hhead ⊢
    exact positional_of_validateService h hhead

end Units

/-! ### Runs -/

/-- A manager that may be asked for one service. -/
def timerManager : SystemManager := ⟨["ninja-timer.service"]⟩

/-- The service of the tests is one plain positional argument. -/
theorem timer_plain :
    PlainUnit timerManager "ninja-timer.service" ∧ ∀ params,
      serviceParam .ascii params = "ninja-timer.service" →
        Positional timerManager .ascii params "ninja-timer.service" := by
  have hvalid : validateService timerManager .ascii "ninja-timer.service" =
      .ok "ninja-timer.service" := rfl
  exact (plain_iff hvalid).2 (by decide)

/-- A manager whose allowlist holds a name that reads as the option for another host -/
def remoteManager : SystemManager := ⟨["-Hbackup.service"]⟩

def remoteParams : Dict := [("service", .str "-Hbackup.service")]

/-- The name passes, and the command of `service.status` has no unit left among its operands. -/
theorem option_validated :
    validateService remoteManager .ascii "-Hbackup.service" = .ok "-Hbackup.service" ∧
    ¬PlainUnit remoteManager "-Hbackup.service" ∧
    ∃ p tr q, handler remoteManager .ascii 0 "service.status" remoteParams = some p ∧ Path p tr q ∧
      ∃ e ∈ tr, ∃ argv env, e.call = .spawn argv env ∧ operands argv = ["show"] := by
  refine ⟨rfl, fun h => h.head (by decide), _, _, _, rfl, .cons (r := .ok 1) (.nil _), _,
    List.mem_cons_self, _, _, rfl, by decide⟩

end ApplianceAdmin.System
