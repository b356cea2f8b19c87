import Mathlib.Data.List.Basic

namespace BroadView.Transition

section Run

variable {σ α : Type*} (step : σ → α → σ)

def run (state : σ) (acts : List α) : σ := acts.foldl step state

-- The condition holds of every action in the state the action is taken in.
def Along (cond : σ → α → Prop) : σ → List α → Prop
  | _, [] => True
  | state, act :: rest => cond state act ∧ Along cond (step state act) rest

@[simp] theorem run_nil (state : σ) : run step state [] = state := rfl

@[simp] theorem run_cons (state : σ) (act : α) (rest : List α) :
    run step state (act :: rest) = run step (step state act) rest := rfl

@[simp] theorem along_nil (cond : σ → α → Prop) (state : σ) : Along step cond state [] := trivial

@[simp] theorem along_cons (cond : σ → α → Prop) (state : σ) (act : α) (rest : List α) :
    Along step cond state (act :: rest) ↔ cond state act ∧ Along step cond (step state act) rest :=
  Iff.rfl

theorem along_append (cond : σ → α → Prop) (state : σ) (acts acts' : List α) :
    Along step cond state (acts ++ acts') ↔
      Along step cond state acts ∧ Along step cond (run step state acts) acts' := by
  induction acts generalizing state with
  | nil => simp
  | cons act rest ih => simp [ih, and_assoc]

variable {step}

-- A step lemma under a condition gives the invariant after every run whose
-- actions meet the condition.
theorem run_invariant (inv : σ → Prop) {cond : σ → α → Prop}
    (hstep : ∀ state act, inv state → cond state act → inv (step state act))
    (state : σ) (acts : List α) (hinv : inv state) (hcond : Along step cond state acts) :
    inv (run step state acts) := by
  induction acts generalizing state with
  | nil => exact hinv
  | cons act rest ih => exact ih _ (hstep state act hinv hcond.1) hcond.2

-- What the invariant and the condition give at one step holds at every step.
theorem along_of_invariant (inv : σ → Prop) {cond prop : σ → α → Prop}
    (hstep : ∀ state act, inv state → cond state act → inv (step state act))
    (hprop : ∀ state act, inv state → cond state act → prop state act)
    (state : σ) (acts : List α) (hinv : inv state) (hcond : Along step cond state acts) :
    Along step prop state acts := by
  induction acts generalizing state with
  | nil => trivial
  | cons act rest ih =>
      exact ⟨hprop state act hinv hcond.1, ih _ (hstep state act hinv hcond.1) hcond.2⟩

theorem along_mono {cond cond' : σ → α → Prop}
    (himp : ∀ state act, cond state act → cond' state act)
    (state : σ) (acts : List α) (hcond : Along step cond state acts) :
    Along step cond' state acts :=
  along_of_invariant (fun _ => True) (fun _ _ _ _ => trivial)
    (fun s a _ h => himp s a h) state acts trivial hcond

theorem along_and {cond cond' : σ → α → Prop} {state : σ} {acts : List α}
    (h : Along step cond state acts) (h' : Along step cond' state acts) :
    Along step (fun s a => cond s a ∧ cond' s a) state acts := by
  induction acts generalizing state with
  | nil => trivial
  | cons act rest ih => exact ⟨⟨h.1, h'.1⟩, ih h.2 h'.2⟩

theorem along_of_forall {cond : σ → α → Prop} (h : ∀ state act, cond state act)
    (state : σ) (acts : List α) : Along step cond state acts := by
  induction acts generalizing state with
  | nil => trivial
  | cons act rest ih => exact ⟨h state act, ih _⟩

theorem along_of_mem {cond : α → Prop} (state : σ) (acts : List α)
    (h : ∀ act ∈ acts, cond act) : Along step (fun _ act => cond act) state acts := by
  induction acts generalizing state with
  | nil => trivial
  | cons act rest ih =>
      exact ⟨h act List.mem_cons_self, ih _ fun a ha => h a (List.mem_cons_of_mem act ha)⟩

end Run

section Output

variable {σ α ε : Type*} (step : σ → α → σ) (out : σ → α → List ε)

-- What a run emits, in order.
def outputs : σ → List α → List ε
  | _, [] => []
  | state, act :: rest => out state act ++ outputs (step state act) rest

@[simp] theorem outputs_nil (state : σ) : outputs step out state [] = [] := rfl

@[simp] theorem outputs_cons (state : σ) (act : α) (rest : List α) :
    outputs step out state (act :: rest) =
      out state act ++ outputs step out (step state act) rest := rfl

theorem outputs_append (state : σ) (acts acts' : List α) :
    outputs step out state (acts ++ acts') =
      outputs step out state acts ++ outputs step out (run step state acts) acts' := by
  induction acts generalizing state with
  | nil => rfl
  | cons act rest ih => simp [ih]

variable {step out}

-- Refining each emission refines what a run emits.
theorem outputs_flatMap {γ : Type*} (refine : ε → List γ) (state : σ) (acts : List α) :
    outputs step (fun s a => (out s a).flatMap refine) state acts =
      (outputs step out state acts).flatMap refine := by
  induction acts generalizing state with
  | nil => rfl
  | cons act rest ih => rw [outputs_cons, outputs_cons, ih, List.flatMap_append]

theorem along_forall_iff (prop : ε → Prop) (state : σ) (acts : List α) :
    Along step (fun s a => ∀ event ∈ out s a, prop event) state acts ↔
      ∀ event ∈ outputs step out state acts, prop event := by
  induction acts generalizing state with
  | nil => simp
  | cons act rest ih => simp [ih, or_imp, forall_and]

theorem outputs_of_along {prop : ε → Prop} {state : σ} {acts : List α}
    (h : Along step (fun s a => ∀ event ∈ out s a, prop event) state acts) :
    ∀ event ∈ outputs step out state acts, prop event := by
  induction acts generalizing state with
  | nil => simp
  | cons act rest ih =>
      intro event he
      rcases List.mem_append.mp he with he | he
      · exact h.1 event he
      · exact ih h.2 event he

end Output

section Observer

variable {σ α ε ω : Type*} (step : σ → α → σ) (out : σ → α → List ε) (observe : ω → ε → ω)

-- A system together with an observer of what it emits.
def watch (s : σ × ω) (act : α) : σ × ω :=
  (step s.1 act, (out s.1 act).foldl observe s.2)

-- The observer does not disturb the system.
theorem along_watch (cond : σ → α → Prop) (s : σ × ω) (acts : List α) :
    Along (watch step out observe) (fun s act => cond s.1 act) s acts ↔
      Along step cond s.1 acts := by
  induction acts generalizing s with
  | nil => exact Iff.rfl
  | cons act rest ih => exact and_congr_right fun _ => ih _

end Observer

section Simulation

variable {σ τ α β ε : Type*} {step : σ → α → σ} {step' : τ → β → τ}
  {out : σ → α → List ε} {out' : τ → β → List ε} {view : σ → τ} {label : α → List β}

theorem outputs_simulates
    (hstep : ∀ state act, view (step state act) = run step' (view state) (label act))
    (hout : ∀ state act, out state act = outputs step' out' (view state) (label act))
    (state : σ) (acts : List α) :
    outputs step out state acts = outputs step' out' (view state) (acts.flatMap label) := by
  induction acts generalizing state with
  | nil => rfl
  | cons act rest ih =>
      rw [outputs_cons, List.flatMap_cons, outputs_append, hout, ih, hstep]

end Simulation

section Unwinding

variable {σ α ε : Type*} {step : σ → α → σ} {out : σ → α → List ε}
  (allowed : α → Prop) (visible : α → Bool) (agree : σ → σ → Prop)

-- Hidden actions neither emit nor disturb the agreement on their left, and
-- visible ones emit the same from states that agree.
structure Unwinds (step : σ → α → σ) (out : σ → α → List ε) : Prop where
  hidden : ∀ s t a, allowed a → visible a = false → agree s t → agree (step s a) t
  silent : ∀ s a, allowed a → visible a = false → out s a = []
  preserved : ∀ s t a, allowed a → visible a = true → agree s t → agree (step s a) (step t a)
  observed : ∀ s t a, allowed a → visible a = true → agree s t → out s a = out t a

theorem Unwinds.outputs_filter (h : Unwinds allowed visible agree step out)
    (s t : σ) (acts : List α) (hst : agree s t) (hall : ∀ a ∈ acts, allowed a) :
    outputs step out s acts = outputs step out t (acts.filter visible) := by
  induction acts generalizing s t with
  | nil => rfl
  | cons act rest ih =>
      have hact := hall act List.mem_cons_self
      have hrest : ∀ a ∈ rest, allowed a := fun a ha => hall a (List.mem_cons_of_mem act ha)
      cases hv : visible act with
      | false =>
          rw [outputs_cons, h.silent s act hact hv, List.nil_append,
            List.filter_cons_of_neg (by simp [hv])]
          exact ih _ _ (h.hidden s t act hact hv hst) hrest
      | true =>
          rw [outputs_cons, List.filter_cons_of_pos hv, outputs_cons,
            h.observed s t act hact hv hst]
          rw [ih _ _ (h.preserved s t act hact hv hst) hrest]

-- Two histories with the same visible actions emit the same.
theorem Unwinds.outputs_eq (h : Unwinds allowed visible agree step out)
    (s : σ) (acts acts' : List α) (hs : agree s s)
    (hall : ∀ a ∈ acts, allowed a) (hall' : ∀ a ∈ acts', allowed a)
    (hsame : acts.filter visible = acts'.filter visible) :
    outputs step out s acts = outputs step out s acts' := by
  rw [h.outputs_filter allowed visible agree s s acts hs hall, hsame,
    h.outputs_filter allowed visible agree s s acts' hs hall']

end Unwinding

end BroadView.Transition
