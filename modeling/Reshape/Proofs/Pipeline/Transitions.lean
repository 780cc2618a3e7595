import Reshape.Pipeline.State

/-!
# Calls on the state of a run

A run is asked for one transition after another, and a call that is refused leaves its state as it
was. It enters its steps in order from the first. Before it has ended it can be ended at any time,
and the step that it then fails at is the one that the call names, be it entered or not. Once it has
ended it accepts nothing more.
-/

namespace Reshape

inductive Call where
  | advance (step : Nat)
  | complete
  | fail (step : Nat) (operator : String)
deriving DecidableEq

structure Transition where
  source : RunState
  call : Call
  target : RunState
deriving DecidableEq

def Transition.step? (t : Transition) : Option Nat :=
  match t.call with
  | .advance step => some step
  | .complete => none
  | .fail _ _ => none

namespace RunState

def call (s : RunState) : Call → Except TransitionError RunState
  | .advance step => s.advance step
  | .complete => s.complete
  | .fail step operator => s.fail step operator

def transitions : RunState → List Call → List Transition
  | _, [] => []
  | s, c :: rest =>
    match s.call c with
    | .ok t => ⟨s, c, t⟩ :: transitions t rest
    | .error _ => transitions s rest

def after : RunState → List Call → RunState
  | s, [] => s
  | s, c :: rest =>
    match s.call c with
    | .ok t => after t rest
    | .error _ => after s rest

def entered : Nat → RunState
  | 0 => idle
  | n + 1 => running n

inductive Allowed (n : Nat) : Call → RunState → Prop
  | advance : Allowed n (.advance n) (entered (n + 1))
  | complete : Allowed n .complete completed
  | fail (step : Nat) (operator : String) : Allowed n (.fail step operator) (failed step operator)

theorem next?_entered (n : Nat) : (entered n).next? = some n := by
  cases n <;> rfl

theorem isTerminal_entered (n : Nat) : (entered n).isTerminal = false := by
  cases n <;> rfl

theorem entered_eq_running {n step : Nat} : entered n = running step ↔ n = step + 1 := by
  cases n with
  | zero => simp [entered]
  | succ n => simp [entered]

theorem call_entered {n : Nat} {c : Call} {t : RunState} :
    (entered n).call c = .ok t ↔ Allowed n c t := by
  constructor
  · intro h
    cases c with
    | advance step =>
        simp only [call, advance, next?_entered] at h
        split at h
        · rename_i here
          cases here
          cases h
          exact .advance
        · cases h
    | complete =>
        rw [call, complete, isTerminal_entered] at h
        cases h
        exact .complete
    | fail step operator =>
        rw [call, fail, isTerminal_entered] at h
        cases h
        exact .fail step operator
  · intro h
    cases h with
    | advance => exact if_pos (next?_entered n)
    | complete =>
        rw [call, complete, isTerminal_entered]
        rfl
    | fail step operator =>
        rw [call, fail, isTerminal_entered]
        rfl

theorem call_of_isTerminal {s : RunState} (h : s.isTerminal) (c : Call) :
    ∃ e, s.call c = .error e := by
  cases s with
  | idle => cases h
  | running step => cases h
  | completed => cases c <;> exact ⟨_, rfl⟩
  | failed step operator => cases c <;> exact ⟨_, rfl⟩

theorem transitions_append (s : RunState) (calls later : List Call) :
    s.transitions (calls ++ later) = s.transitions calls ++ (s.after calls).transitions later := by
  induction calls generalizing s with
  | nil => rfl
  | cons c rest ih =>
      cases result : s.call c with
      | ok t => simp only [List.cons_append, transitions, after, result, ih]
      | error e => simp only [List.cons_append, transitions, after, result, ih]

theorem after_append (s : RunState) (calls later : List Call) :
    s.after (calls ++ later) = (s.after calls).after later := by
  induction calls generalizing s with
  | nil => rfl
  | cons c rest ih =>
      cases result : s.call c with
      | ok t => simp only [List.cons_append, after, result, ih]
      | error e => simp only [List.cons_append, after, result, ih]

theorem transitions_of_isTerminal {s : RunState} (h : s.isTerminal) (calls : List Call) :
    s.transitions calls = [] ∧ s.after calls = s := by
  induction calls with
  | nil => exact ⟨rfl, rfl⟩
  | cons c rest ih =>
      obtain ⟨e, refused⟩ := call_of_isTerminal h c
      simpa only [transitions, after, refused] using ih

def entering (n : Nat) : Transition :=
  ⟨entered n, .advance n, entered (n + 1)⟩

/-- How a run that has entered `n` steps goes on without entering another one, and where it ends. -/
inductive Ends (n : Nat) : List Transition → RunState → Prop
  | going : Ends n [] (entered n)
  | ended {c : Call} {t : RunState} (allowed : Allowed n c t) (last : t.isTerminal) :
      Ends n [⟨entered n, c, t⟩] t

theorem transitions_entered (n : Nat) (calls : List Call) :
    ∃ count ending,
      (entered n).transitions calls = (List.range' n count).map entering ++ ending ∧
      Ends (n + count) ending ((entered n).after calls) := by
  induction calls generalizing n with
  | nil => exact ⟨0, [], rfl, .going⟩
  | cons c rest ih =>
      cases result : (entered n).call c with
      | error e =>
          simp only [transitions, after, result]
          exact ih n
      | ok t =>
          have allowed := call_entered.mp result
          simp only [transitions, after, result]
          by_cases ended : t.isTerminal
          · obtain ⟨none, same⟩ := transitions_of_isTerminal ended rest
            rw [none, same]
            exact ⟨0, _, rfl, .ended allowed ended⟩
          · cases allowed with
            | advance =>
                obtain ⟨count, ending, steps, ends⟩ := ih (n + 1)
                refine ⟨count + 1, ending, ?_, ?_⟩
                · rw [steps, List.range'_succ, List.map_cons, List.cons_append, entering]
                · rwa [Nat.add_comm count, ← Nat.add_assoc]
            | complete => exact absurd rfl ended
            | fail step operator => exact absurd rfl ended

section Ends

variable {n : Nat} {ending : List Transition} {s : RunState} (h : Ends n ending s)

include h

theorem step?_of_ends : ending.filterMap Transition.step? = [] := by
  cases h with
  | going => rfl
  | ended allowed last =>
      cases allowed with
      | advance => cases last
      | complete => rfl
      | fail step operator => rfl

theorem failed_of_ends {t : Transition} {step : Nat} {operator : String} (mem : t ∈ ending)
    (failed : t.target = failed step operator) :
    t.call = .fail step operator ∧ t.source = entered n := by
  cases h with
  | going => cases mem
  | ended allowed last =>
      cases List.mem_singleton.mp mem
      cases failed
      cases allowed
      exact ⟨rfl, rfl⟩

theorem going_of_ends (going : s.isTerminal = false) : s = entered n := by
  cases h with
  | going => rfl
  | ended allowed last => exact absurd going (Bool.not_eq_false _ ▸ last)

end Ends

/-- What a run accepts of `calls`, if it enters `n` steps. -/
structure Follows (calls : List Call) (n : Nat) : Prop where
  steps : (idle.transitions calls).filterMap Transition.step? = List.range n
  /-- The step of a failure is the one that its call names. The run was in it only if it had entered
  just as many steps. -/
  fails : ∀ t ∈ idle.transitions calls, ∀ step operator, t.target = failed step operator →
    t.call = .fail step operator ∧ t.source = entered n ∧
      (t.source = running step ↔ n = step + 1)
  going : (idle.after calls).isTerminal = false → idle.after calls = entered n ∧
    ∀ c t, (idle.after calls).call c = .ok t ↔ Allowed n c t
  ended : (idle.after calls).isTerminal = true → ∀ later,
    idle.transitions (calls ++ later) = idle.transitions calls ∧
      idle.after (calls ++ later) = idle.after calls

/-- A run enters its steps in order from the first and accepts nothing after its end, but it can fail
before its first step, and at a step that it is not in. -/
theorem idle_follows (calls : List Call) : ∃ n, Follows calls n := by
  obtain ⟨n, ending, accepted, ends⟩ := transitions_entered 0 calls
  rw [Nat.zero_add, entered] at ends
  rw [entered, ← List.range_eq_range'] at accepted
  refine ⟨n, ?_, ?_, fun going => ?_, fun ended later => ?_⟩
  · have steps : ((List.range n).map entering).filterMap Transition.step? = List.range n := by
      rw [List.filterMap_map]
      exact List.filterMap_some
    rw [accepted, List.filterMap_append, steps, step?_of_ends ends, List.append_nil]
  · intro t mem step operator failed
    rw [accepted, List.mem_append] at mem
    rcases mem with entering | ending
    · obtain ⟨i, -, rfl⟩ := List.mem_map.mp entering
      cases failed
    · obtain ⟨call, source⟩ := failed_of_ends ends ending failed
      refine ⟨call, source, ?_⟩
      rw [source]
      exact entered_eq_running
  · rw [going_of_ends ends going]
    exact ⟨rfl, fun c t => call_entered⟩
  · obtain ⟨none, same⟩ := transitions_of_isTerminal ended later
    rw [transitions_append, after_append, none, same, List.append_nil]
    exact ⟨rfl, rfl⟩

/-- Calls that are refused: a step too early, a step again, and a failure after the end. -/
example : idle.transitions [.advance 1, .advance 0, .advance 0, .advance 1, .complete,
    .fail 1 "sort"] = [entering 0, entering 1, ⟨running 1, .complete, completed⟩] := rfl

/-- A run that is said to have failed at its first step before it has entered it, and one that is said
to have failed at a step far ahead. -/
theorem failed_elsewhere :
    let early : Transition := ⟨idle, .fail 0 "select", failed 0 "select"⟩
    let ahead : Transition := ⟨running 0, .fail 7 "select", failed 7 "select"⟩
    idle.transitions [.fail 0 "select"] = [early] ∧
      idle.transitions [.advance 0, .fail 7 "select"] = [entering 0, ahead] ∧
      ¬ ∀ calls, ∀ t ∈ idle.transitions calls, ∀ step operator,
        t.target = failed step operator → t.source = running step := by
  intro early ahead
  refine ⟨rfl, rfl, fun only => ?_⟩
  have elsewhere := only [.fail 0 "select"] early (List.mem_singleton.mpr rfl) 0 "select" rfl
  cases elsewhere

end RunState

end Reshape
