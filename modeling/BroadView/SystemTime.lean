import BroadView.Platform

namespace BroadView

-- What the operating system answers to timer_create, timer_settime and
-- timer_delete; timer_create hands out the identifier of the new timer.
structure TimerCalls where
  timer_create : Option Nat
  timer_settime : Bool
  timer_delete : Bool
  deriving DecidableEq, Repr

def TimerCalls.Succeed (calls : TimerCalls) : Prop :=
  calls.timer_create.isSome ∧ calls.timer_settime = true ∧ calls.timer_delete = true

-- An operating system timer and its period in milliseconds; period 0 is a
-- timer that exists but is not armed.
structure OsTimer where
  timerId : Nat
  period : Int
  deriving DecidableEq, Repr

-- live holds the operating system timers created through this node and not
-- deleted since.
structure TimerNode where
  in_use : Bool
  timerId : Nat
  live : List OsTimer
  deriving DecidableEq, Repr

def system_timer_add (calls : TimerCalls) (timeInMilliSec : Int) (node : TimerNode) :
    BVIEW_STATUS × TimerNode :=
  match calls.timer_create with
  | none => (.FAILURE, node)
  | some timerId =>
      if calls.timer_settime then
        (.SUCCESS, { node with timerId, live := node.live ++ [⟨timerId, timeInMilliSec⟩] })
      else
        (.FAILURE, { node with timerId, live := node.live ++ [⟨timerId, 0⟩] })

def system_timer_delete (calls : TimerCalls) (node : TimerNode) : BVIEW_STATUS × TimerNode :=
  if calls.timer_delete then
    (.SUCCESS, { node with live := node.live.filter (·.timerId ≠ node.timerId) })
  else
    (.FAILURE, node)

-- The callers record a successful call in in_use and leave it otherwise.
def TimerNode.start (calls : TimerCalls) (timeInMilliSec : Int) (node : TimerNode) :
    BVIEW_STATUS × TimerNode :=
  match system_timer_add calls timeInMilliSec node with
  | (.SUCCESS, node') => (.SUCCESS, { node' with in_use := true })
  | other => other

def TimerNode.stop (calls : TimerCalls) (node : TimerNode) : BVIEW_STATUS × TimerNode :=
  if node.in_use then
    match system_timer_delete calls node with
    | (.SUCCESS, node') => (.SUCCESS, { node' with in_use := false })
    | other => other
  else
    (.SUCCESS, node)

theorem start_in_use (calls : TimerCalls) (ms : Int) (node : TimerNode) (hc : calls.Succeed) :
    (node.start calls ms).2.in_use = true := by
  obtain ⟨hcreate, hset, -⟩ := hc
  obtain ⟨timerId, hid⟩ := Option.isSome_iff_exists.mp hcreate
  simp [TimerNode.start, system_timer_add, hid, hset]

-- The period at which a node in use expires, that of its latest timer.
def TimerNode.period (node : TimerNode) : Option Int :=
  if node.in_use then
    (node.live.reverse.find? (·.timerId = node.timerId)).map OsTimer.period
  else none

-- A node stopped and started again, as the callers do to change the period.
def TimerNode.restart (calls : TimerCalls) (timeInMilliSec : Int) (node : TimerNode) :
    BVIEW_STATUS × TimerNode :=
  (node.stop calls).2.start calls timeInMilliSec

-- A node that is in use exactly when it is wanted, with one operating system
-- timer of the given period behind it while in use and none otherwise.
structure TimerNode.Follows (node : TimerNode) (wanted : Prop) (period : Int) : Prop where
  in_use : node.in_use = true ↔ wanted
  backed : node.in_use = true → node.live = [⟨node.timerId, period⟩]
  released : node.in_use = false → node.live = []

section Follows

variable {calls : TimerCalls} {node : TimerNode} {wanted wanted' : Prop} {period period' : Int}

theorem TimerNode.Follows.congr (h : node.Follows wanted period) (hiff : wanted ↔ wanted')
    (hperiod : wanted → period = period') : node.Follows wanted' period' := by
  refine ⟨h.in_use.trans hiff, fun huse => ?_, h.released⟩
  rw [← hperiod (h.in_use.mp huse)]
  exact h.backed huse

theorem stop_follows (hcalls : calls.Succeed) (h : node.Follows wanted period)
    (hnot : ¬ wanted') : (node.stop calls).2.Follows wanted' period' := by
  obtain ⟨-, -, hdelete⟩ := hcalls
  cases huse : node.in_use with
  | false =>
      have hsame : (node.stop calls).2 = node := by simp [TimerNode.stop, huse]
      rw [hsame]
      exact ⟨by simp [huse, hnot], by simp [huse], h.released⟩
  | true =>
      have hlive := h.backed huse
      have hin : (node.stop calls).2.in_use = false := by
        simp [TimerNode.stop, huse, system_timer_delete, hdelete]
      have hnone : (node.stop calls).2.live = [] := by
        simp [TimerNode.stop, huse, system_timer_delete, hdelete, hlive]
      exact ⟨by simp [hin, hnot], by simp [hin], fun _ => hnone⟩

theorem start_follows (hcalls : calls.Succeed) (hlive : node.live = []) (hwanted : wanted) :
    (node.start calls period).2.Follows wanted period := by
  obtain ⟨hcreate, hset, -⟩ := hcalls
  obtain ⟨timerId, hid⟩ := Option.isSome_iff_exists.mp hcreate
  have hstart : (node.start calls period).2 =
      { in_use := true, timerId, live := [⟨timerId, period⟩] } := by
    simp [TimerNode.start, system_timer_add, hid, hset, hlive]
  rw [hstart]
  exact ⟨by simp [hwanted], fun _ => rfl, by simp⟩

theorem restart_follows (hcalls : calls.Succeed) (h : node.Follows wanted period)
    (hwanted : wanted') : (node.restart calls period').2.Follows wanted' period' := by
  have hstopped : (node.stop calls).2.Follows False period := stop_follows hcalls h id
  have hin : (node.stop calls).2.in_use = false := by
    simpa using hstopped.in_use
  exact start_follows hcalls (hstopped.released hin) hwanted

end Follows

end BroadView
