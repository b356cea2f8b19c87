import Mathlib.Algebra.GroupWithZero.Nat
import Mathlib.Data.List.Basic
import Mathlib.Data.List.Forall2

namespace BroadView.Buffer

-- A writer appends formatted pieces to a buffer and may step back over the
-- last character.
inductive Op where
  | put (piece : List Char)
  | back

-- What stands before the write position, and the remaining length that the
-- writer keeps.
structure Cursor where
  text : List Char
  rem : Int

-- A piece longer than the remaining length carries the write position past the
-- end of the buffer.
inductive Outcome where
  | done (cursor : Cursor)
  | outOfMemory
  | overrun

def write (cursor : Cursor) (piece : List Char) : Outcome :=
  if (piece.length : Int) = cursor.rem then .outOfMemory
  else if (piece.length : Int) < cursor.rem then
    .done ⟨cursor.text ++ piece, cursor.rem - piece.length⟩
  else .overrun

def exec : Cursor → List Op → Outcome
  | cursor, [] => .done cursor
  | cursor, .put piece :: rest =>
      match write cursor piece with
      | .done cursor' => exec cursor' rest
      | outcome => outcome
  | cursor, .back :: rest => exec ⟨cursor.text.dropLast, cursor.rem + 1⟩ rest

-- The text that the same operations make of an unlimited buffer.
def render : List Char → List Op → List Char
  | text, [] => text
  | text, .put piece :: rest => render (text ++ piece) rest
  | text, .back :: rest => render text.dropLast rest

-- The positions at which the pieces end.
def ends : Nat → List Op → List Nat
  | _, [] => []
  | pos, .put piece :: rest => (pos + piece.length) :: ends (pos + piece.length) rest
  | pos, .back :: rest => ends (pos - 1) rest

-- By how much the write position moves.
def advance : List Op → Nat
  | [] => 0
  | .put piece :: rest => piece.length + advance rest
  | .back :: rest => advance rest - 1

-- Every step back is made good by the piece after it.
def Advancing : List Op → Prop
  | [] => True
  | .put piece :: rest => 0 < piece.length ∧ Advancing rest
  | .back :: .put piece :: rest => 1 < piece.length ∧ Advancing rest
  | .back :: _ => False

section Run

theorem exec_append (cursor : Cursor) (ops ops' : List Op) :
    exec cursor (ops ++ ops') =
      match exec cursor ops with
      | .done cursor' => exec cursor' ops'
      | outcome => outcome := by
  induction ops generalizing cursor with
  | nil => rfl
  | cons op rest ih =>
      cases op with
      | back => exact ih _
      | put piece =>
          simp only [List.cons_append, exec]
          cases write cursor piece with
          | done cursor' => exact ih cursor'
          | outOfMemory => rfl
          | overrun => rfl

theorem render_append (text : List Char) (ops ops' : List Op) :
    render text (ops ++ ops') = render (render text ops) ops' := by
  induction ops generalizing text with
  | nil => rfl
  | cons op rest ih => cases op <;> exact ih _

theorem Advancing.put {piece : List Char} {rest : List Op} (hpiece : 0 < piece.length)
    (hrest : Advancing rest) : Advancing (.put piece :: rest) := ⟨hpiece, hrest⟩

theorem Advancing.append {ops ops' : List Op} (h : Advancing ops) (h' : Advancing ops') :
    Advancing (ops ++ ops') := by
  fun_induction Advancing ops with
  | case1 => exact h'
  | case2 piece rest ih => exact ⟨h.1, ih h.2⟩
  | case3 piece rest ih => exact ⟨h.1, ih h.2⟩
  | case4 => exact h.elim

theorem Advancing.flatten {blocks : List (List Op)} (h : ∀ ops ∈ blocks, Advancing ops) :
    Advancing blocks.flatten := by
  induction blocks with
  | nil => trivial
  | cons ops rest ih =>
      have hrest := ih fun ops' hmem => h ops' (List.mem_cons_of_mem ops hmem)
      exact (h ops List.mem_cons_self).append hrest

theorem advance_append {ops : List Op} (hadv : Advancing ops) (ops' : List Op) :
    advance (ops ++ ops') = advance ops + advance ops' := by
  fun_induction Advancing ops with
  | case1 => simp [advance]
  | case2 piece rest ih =>
      have hrest := ih hadv.2
      simp only [List.cons_append, advance]
      omega
  | case3 piece rest ih =>
      have hrest := ih hadv.2
      have hpiece := hadv.1
      simp only [List.cons_append, advance]
      omega
  | case4 => exact hadv.elim

theorem advance_flatten {blocks : List (List Op)} (h : ∀ ops ∈ blocks, Advancing ops) :
    advance blocks.flatten = (blocks.map advance).sum := by
  induction blocks with
  | nil => rfl
  | cons ops rest ih =>
      have hrest := ih fun ops' hmem => h ops' (List.mem_cons_of_mem ops hmem)
      rw [List.flatten_cons, advance_append (h ops List.mem_cons_self), hrest]
      rfl

theorem render_length {ops : List Op} (hadv : Advancing ops) (text : List Char)
    (hpos : 0 < text.length) : (render text ops).length = text.length + advance ops := by
  fun_induction Advancing ops generalizing text with
  | case1 => rfl
  | case2 piece rest ih =>
      have hrest := ih hadv.2 (text ++ piece) (by simp only [List.length_append]; omega)
      simp only [List.length_append] at hrest
      simp only [render, advance]
      omega
  | case3 piece rest ih =>
      have hpiece := hadv.1
      have hrest := ih hadv.2 (text.dropLast ++ piece) (by simp only [List.length_append]; omega)
      simp only [List.length_append, List.length_dropLast] at hrest
      simp only [render, advance]
      omega
  | case4 => exact hadv.elim

theorem render_length_le {ops : List Op} (hadv : Advancing ops) (text : List Char) :
    text.length ≤ (render text ops).length := by
  fun_induction Advancing ops generalizing text with
  | case1 => exact Nat.le_refl _
  | case2 piece rest ih =>
      have hrest := ih hadv.2 (text ++ piece)
      simp only [List.length_append] at hrest
      simp only [render]
      omega
  | case3 piece rest ih =>
      have hrest := ih hadv.2 (text.dropLast ++ piece)
      simp only [List.length_append, List.length_dropLast] at hrest
      have hpiece := hadv.1
      simp only [render]
      omega
  | case4 => exact hadv.elim

theorem lt_ends {ops : List Op} (hadv : Advancing ops) (pos reached : Nat)
    (hmem : reached ∈ ends pos ops) : pos < reached := by
  fun_induction Advancing ops generalizing pos with
  | case1 => cases hmem
  | case2 piece rest ih =>
      have hpiece := hadv.1
      rcases List.mem_cons.mp hmem with rfl | hmem
      · omega
      · have hlt := ih hadv.2 _ hmem
        omega
  | case3 piece rest ih =>
      have hpiece := hadv.1
      rcases List.mem_cons.mp hmem with rfl | hmem
      · omega
      · have hlt := ih hadv.2 _ hmem
        omega
  | case4 => exact hadv.elim

theorem ends_le {ops : List Op} (hadv : Advancing ops) (pos : Nat) (hpos : 0 < pos)
    {reached : Nat} (hmem : reached ∈ ends pos ops) : reached ≤ pos + advance ops := by
  fun_induction Advancing ops generalizing pos with
  | case1 => cases hmem
  | case2 piece rest ih =>
      simp only [advance]
      rcases List.mem_cons.mp hmem with rfl | hmem
      · omega
      · have hle := ih hadv.2 (pos + piece.length) (by omega) hmem
        omega
  | case3 piece rest ih =>
      have hpiece := hadv.1
      simp only [advance]
      rcases List.mem_cons.mp hmem with rfl | hmem
      · omega
      · have hle := ih hadv.2 (pos - 1 + piece.length) (by omega) hmem
        omega
  | case4 => exact hadv.elim

-- What a writer does that has not reached the end yet. The remaining length is
-- compared with the length of the piece only, so the end is noticed exactly
-- when some piece ends there.
def outcome (size : Nat) (text : List Char) (ops : List Op) : Outcome :=
  if (render text ops).length < size then
    .done ⟨render text ops, size - (render text ops).length⟩
  else if size ∈ ends text.length ops then .outOfMemory
  else .overrun

theorem put_outcome (size : Nat) (text piece : List Char) (rest : List Op)
    (hrest : Advancing rest)
    (ih : (text ++ piece).length < size →
      exec ⟨text ++ piece, size - (text ++ piece).length⟩ rest =
        outcome size (text ++ piece) rest) :
    exec ⟨text, size - text.length⟩ (.put piece :: rest) =
      outcome size text (.put piece :: rest) := by
  have hle := render_length_le hrest (text ++ piece)
  have hlater := lt_ends hrest (text.length + piece.length) size
  have hrem : (size : Int) - text.length - piece.length = size - (text ++ piece).length := by
    simp only [List.length_append]
    omega
  simp only [List.length_append] at hle
  unfold outcome
  simp only [exec, write, render, ends, List.mem_cons]
  by_cases heq : (piece.length : Int) = size - text.length
  · have hend : size = text.length + piece.length := by omega
    have hfull : ¬ (render (text ++ piece) rest).length < size := by omega
    rw [if_pos heq, if_neg hfull, if_pos (Or.inl hend)]
  by_cases hlt : (piece.length : Int) < size - text.length
  · have hend : size ≠ text.length + piece.length := by omega
    have hfits : (text ++ piece).length < size := by
      simp only [List.length_append]
      omega
    simp only [if_neg heq, if_pos hlt, hrem, ih hfits]
    simp [outcome, hend]
  · have hend : size ≠ text.length + piece.length := by omega
    have hfull : ¬ (render (text ++ piece) rest).length < size := by omega
    have hnot : size ∉ ends (text.length + piece.length) rest := fun hmem => by
      have := hlater hmem
      omega
    simp [heq, hlt, hend, hfull, hnot]

theorem exec_outcome (size : Nat) (text : List Char) (ops : List Op) (hadv : Advancing ops)
    (hpos : 0 < text.length) (hlt : text.length < size) :
    exec ⟨text, size - text.length⟩ ops = outcome size text ops := by
  fun_induction Advancing ops generalizing text with
  | case1 => simp [exec, outcome, render, hlt]
  | case2 piece rest ih =>
      apply put_outcome size text piece rest hadv.2
      intro hfits
      refine ih _ hadv.2 ?_ hfits
      simp only [List.length_append]
      omega
  | case3 piece rest ih =>
      -- Stepping back and writing the next piece is one put on the shorter text.
      have hback : (size : Int) - text.length + 1 = size - text.dropLast.length := by
        simp only [List.length_dropLast]
        omega
      have hput := put_outcome size text.dropLast piece rest hadv.2 fun hfits => by
        refine ih _ hadv.2 ?_ hfits
        have hpiece := hadv.1
        simp only [List.length_append]
        omega
      simp only [exec, hback] at hput ⊢
      rw [hput]
      simp [outcome, render, ends]
  | case4 => exact hadv.elim

-- A piece that starts before the end of the buffer and reaches past it.
theorem exec_overrun (size : Nat) (text piece : List Char) {before : List Op} (after : List Op)
    (hadv : Advancing before) (hpos : 0 < text.length)
    (hfits : text.length + advance before < size)
    (hover : size < text.length + advance before + piece.length) :
    exec ⟨text, size - text.length⟩ (before ++ .put piece :: after) = .overrun := by
  have hlength := render_length hadv text hpos
  have hdone : exec ⟨text, size - text.length⟩ before =
      .done ⟨render text before, size - (render text before).length⟩ := by
    rw [exec_outcome size text before hadv hpos (by omega), outcome, if_pos (by omega)]
  rw [exec_append, hdone]
  simp only [exec, write]
  rw [if_neg (by omega), if_neg (by omega)]

end Run

section Appends

-- The operations amount to appending one text.
def Appends (ops : List Op) (added : List Char) : Prop :=
  ∀ text, render text ops = text ++ added

theorem appends_nil : Appends [] [] := fun text => (List.append_nil text).symm

theorem appends_put (piece : List Char) : Appends [.put piece] piece := fun _ => rfl

theorem Appends.append {ops ops' : List Op} {added added' : List Char} (h : Appends ops added)
    (h' : Appends ops' added') : Appends (ops ++ ops') (added ++ added') := by
  intro text
  rw [render_append, h, h', List.append_assoc]

theorem Appends.flatten {blocks : List (List Op)} {items : List (List Char)}
    (h : List.Forall₂ Appends blocks items) : Appends blocks.flatten items.flatten := by
  induction h with
  | nil => exact appends_nil
  | cons hhead _ ih => exact hhead.append ih

-- A list of blocks between brackets: the opening piece, the blocks, each of
-- which ends in a separator, and a closing piece that overwrites the last
-- character.
def listing (opening : List Char) (blocks : List (List Op)) (closing : List Char) : List Op :=
  .put opening :: blocks.flatten ++ [.back, .put closing]

theorem listing_appends {opening closing : List Char} {blocks : List (List Op)}
    {items : List (List Char)} (hopening : opening ≠ [])
    (hitems : List.Forall₂ Appends blocks items) :
    Appends (listing opening blocks closing) ((opening ++ items.flatten).dropLast ++ closing) := by
  intro text
  have hne : opening ++ items.flatten ≠ [] := by simp [hopening]
  have hblocks := (appends_put opening).append (Appends.flatten hitems) text
  rw [show listing opening blocks closing =
    ([.put opening] ++ blocks.flatten) ++ [.back, .put closing] from rfl, render_append, hblocks]
  simp only [render, List.dropLast_append_of_ne_nil hne, List.append_assoc]

theorem listing_advance {opening closing : List Char} {blocks : List (List Op)}
    (hopening : 0 < opening.length) (hblocks : ∀ ops ∈ blocks, Advancing ops) :
    advance (listing opening blocks closing) =
      opening.length + (blocks.map advance).sum + (closing.length - 1) := by
  have hflat := Advancing.put hopening (Advancing.flatten hblocks)
  rw [listing, advance_append hflat, advance, advance_flatten hblocks]
  rfl

theorem listing_advancing {opening closing : List Char} {blocks : List (List Op)}
    (hopening : 0 < opening.length) (hclosing : 1 < closing.length)
    (hblocks : ∀ ops ∈ blocks, Advancing ops) : Advancing (listing opening blocks closing) :=
  (Advancing.put hopening (Advancing.flatten hblocks)).append ⟨hclosing, trivial⟩

end Appends

end BroadView.Buffer
