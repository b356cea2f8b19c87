import BroadView.Bst.System.Lemmas

namespace BroadView.Bst

open Transition

section Limiter

variable (cxt : BVIEW_BST_UNIT_CXT)

def triggerLimit : Int32 := cxt.bst_config.config.bstMaxTriggers

-- The limit the unit has after a message.
def nextLimit (act : UnitAction) : Int32 :=
  match act.msg.msg_type with
  | .SET_FEATURE => requestedLimit act.msg.config (triggerLimit cxt)
  | .UPDATE_FEATURE =>
      let (got, mode) := act.env.sbapi_bst_config_get
      if got ≠ .SUCCESS then triggerLimit cxt else mode.bstMaxTriggers
  | _ => triggerLimit cxt

def Unspent : Prop := ∀ id, cxt.bst_trigger_count id = 0

def KnownPair (info : BVIEW_BST_TRIGGER_INFO) : Prop :=
  (bst_trigger_index_get info.realm info.counter).isSome = true

instance (info : BVIEW_BST_TRIGGER_INFO) : Decidable (KnownPair info) :=
  inferInstanceAs (Decidable (_ = true))

-- Spent budget under a nonzero limit has a timer running that will return it.
def LimiterLive : Prop :=
  triggerLimit cxt ≠ 0 → ¬ Unspent cxt → cxt.bst_trigger_timer.in_use = true

-- Whenever budget is spent a clear is still to come, and that clear returns
-- the whole budget: every known pair is forwarded again after it.
def NeverStarves : Prop :=
  triggerLimit cxt ≠ 0 → ¬ Unspent cxt →
    cxt.bst_trigger_timer.in_use = true ∧
    ∀ msg env, Unspent (bst_clear_trigger_count msg env cxt).cxt ∧
      ∀ info, KnownPair info → send_trigger info (bst_clear_trigger_count msg env cxt).cxt = true

theorem clear_unspent (msg : BVIEW_BST_REQUEST_MSG) (env : Env) :
    Unspent (bst_clear_trigger_count msg env cxt).cxt := by
  intro id
  unfold bst_clear_trigger_count
  dsimp only
  split <;> split <;> rfl

theorem toUnsigned_eq_zero (limit : Int32) : toUnsigned limit = 0 ↔ limit = 0 := by
  unfold toUnsigned
  constructor
  · intro h
    cases limit
    simp only at h
    subst h
    rfl
  · rintro rfl
    rfl

theorem limitReached_zero (limit : Int32) : limitReached limit 0 = false := by
  by_cases h : limit = 0
  · simp [limitReached, h]
  · have hne : toUnsigned limit ≠ 0 := fun hz => h ((toUnsigned_eq_zero limit).mp hz)
    have hlt : ¬ toUnsigned limit ≤ 0 := by
      intro hle
      exact hne (UInt32.le_zero_iff.mp hle)
    simp [limitReached, hlt]

-- With nothing spent every known pair is forwarded.
theorem unspent_forwards (info : BVIEW_BST_TRIGGER_INFO) (hc : Unspent cxt)
    (hknown : KnownPair info) : send_trigger info cxt = true := by
  obtain ⟨index, hindex⟩ := Option.isSome_iff_exists.mp hknown
  simp [send_trigger, hindex, hc index, limitReached_zero]

theorem live_never_starves (h : LimiterLive cxt) : NeverStarves cxt := by
  intro hlimit hspent
  refine ⟨h hlimit hspent, fun msg env => ⟨clear_unspent cxt msg env, fun info hknown => ?_⟩⟩
  exact unspent_forwards _ info (clear_unspent cxt msg env) hknown

theorem handled_limit (act : UnitAction) :
    triggerLimit (handledCxt cxt act) = nextLimit cxt act := by
  by_cases hset : act.msg.msg_type = .SET_FEATURE
  · obtain ⟨enable, hcxt⟩ := feature_set_cxt cxt act.msg act.env
    have hlimit := store_request_limit cxt act.msg.config act.env
    simp only [handledCxt, nextLimit, hset, bst_type_api_get, hcxt]
    exact hlimit
  by_cases hupdate : act.msg.msg_type = .UPDATE_FEATURE
  · simp only [handledCxt, nextLimit, hupdate, bst_type_api_get, bst_update_config_set,
      reduceCtorEq, if_true, if_false]
    split_ifs <;> rfl
  · have hsame := handled_feature cxt act hset hupdate
    have hnext : nextLimit cxt act = triggerLimit cxt := by
      unfold nextLimit
      split <;> trivial
    rw [hnext, triggerLimit, hsame, triggerLimit]

-- The reply never touches the limiter.
theorem unitStep_limiter (act : UnitAction) :
    SameLimiter (handledCxt cxt act) (unitStep cxt act) ∧
      triggerLimit (unitStep cxt act) = triggerLimit (handledCxt cxt act) := by
  rw [unitStep_eq]
  split
  · exact ⟨update_data_same _ _, by simp [triggerLimit]⟩
  · exact ⟨.refl _, rfl⟩

end Limiter

end BroadView.Bst
