import BroadView.Ovsdb.Bufmon.Mirror

namespace BroadView.Ovsdb

open BroadView.Bst Transition

section Place

variable {state : Monitor} {message : Message}

-- The two ways in which a row gets its place in a message.
theorem transitions_cases (hadmits : state.table.Admits message)
    {earlier later : List (Option Row × Option Row)} {before after : Option Row}
    (hsplit : state.table.transitions message = earlier ++ (before, after) :: later) :
    ∃ uuid, before = state.table uuid ∧ after = state.table.apply message uuid := by
  have hmem : (before, after) ∈ state.table.transitions message := by simp [hsplit]
  obtain ⟨⟨uuid, change⟩, hentry, heq⟩ := List.mem_map.mp hmem
  obtain ⟨rfl, rfl⟩ := Prod.mk.inj heq
  exact ⟨uuid, rfl, (apply_of_mem hadmits hentry).symm⟩

end Place

section Past

variable {state : Recorded} {message : Message} {address : Int} {row : Row}

theorem mem_inserted (h : (address, row) ∈ inserted message) :
    row.address = some address ∧ ∃ uuid, (uuid, Change.insert row) ∈ message := by
  obtain ⟨⟨uuid, change⟩, hentry, heq⟩ := List.mem_filterMap.mp h
  cases change with
  | insert inserted =>
      obtain ⟨own, hown, hpair⟩ := Option.map_eq_some_iff.mp heq
      obtain ⟨rfl, rfl⟩ := Prod.mk.inj hpair
      exact ⟨hown, uuid, hentry⟩
  | modify values => cases heq
  | delete => cases heq

theorem inserted_current (hadmits : state.monitor.table.Admits message)
    (h : (address, row) ∈ inserted message) :
    row.address = some address ∧ ∃ uuid, state.monitor.table uuid = none ∧
      state.monitor.table.apply message uuid = some row := by
  obtain ⟨haddress, uuid, hentry⟩ := mem_inserted h
  exact ⟨haddress, uuid, hadmits.fits _ hentry, apply_of_mem hadmits hentry⟩

theorem past_of_not_inserted (h : ∀ entry ∈ inserted message, entry.1 ≠ address) :
    (state.step message).past address = state.past address :=
  Writes.all_of_untouched h

-- No row is inserted for a cell that is vacant after the message.
theorem past_of_vacant (hadmits : state.monitor.table.Admits message)
    (h : (state.monitor.table.apply message).Vacant address) :
    (state.step message).past address = state.past address := by
  refine past_of_not_inserted ?_
  rintro ⟨own, inserted⟩ hentry rfl
  obtain ⟨haddress, uuid, -, hcurrent⟩ := inserted_current hadmits hentry
  exact h uuid inserted hcurrent haddress

-- The row of a cell is the one that was last inserted for it.
theorem recorded_step (hinv : MirrorInv state) (hadm : Admissible state message) {uuid : Uuid}
    (hcurrent : state.monitor.table.apply message uuid = some row)
    (haddress : row.address = some address) :
    ∃ past, (state.step message).past address = some past ∧ past.key = row.key := by
  by_cases hinserted : ∃ entry ∈ inserted message, entry.1 = address
  · obtain ⟨before, ⟨own, inserted⟩, after, hsplit, rfl, hlast⟩ := Writes.exists_last hinserted
    have hentry : (own, inserted) ∈ Ovsdb.inserted message := by simp [hsplit]
    obtain ⟨hown, uuid', -, hcurrent'⟩ := inserted_current hadm.admits hentry
    obtain rfl := hadm.keyed.apart uuid uuid' row inserted hcurrent hcurrent'
      (haddress.trans hown.symm)
    obtain rfl := Option.some.inj (hcurrent.symm.trans hcurrent')
    refine ⟨row, ?_, rfl⟩
    simp only [Recorded.step, hsplit]
    exact Writes.all_last rfl hlast
  · push Not at hinserted
    rw [past_of_not_inserted hinserted]
    by_cases hnamed : ∃ change, (uuid, change) ∈ message
    · obtain ⟨change, hentry⟩ := hnamed
      have hafter := (apply_of_mem hadm.admits hentry).symm.trans hcurrent
      cases hbefore : state.monitor.table uuid with
      | none =>
          rw [hbefore] at hafter
          cases change with
          | insert new =>
              obtain rfl := Option.some.inj hafter
              have hmem : (address, new) ∈ inserted message :=
                List.mem_filterMap.mpr ⟨(uuid, .insert new), hentry, by simp [haddress]⟩
              exact absurd rfl (hinserted (address, new) hmem)
          | modify values => cases hafter
          | delete => cases hafter
      | some before =>
          rw [hbefore] at hafter
          have hfits := hadm.admits.fits _ hentry
          simp only [hbefore] at hfits
          have hkey := after_key hfits hafter
          obtain ⟨past, hpast, hpastkey⟩ :=
            hinv.recorded uuid before address hbefore ((address_congr hkey).symm.trans haddress)
          exact ⟨past, hpast, hpastkey.trans hkey.symm⟩
    · push Not at hnamed
      rw [apply_of_not_mem hadm.admits hnamed] at hcurrent
      exact hinv.recorded uuid row address hcurrent haddress

end Past

section Step

variable {state : Recorded} {message : Message}

-- A cell that the message does not lead to is the cell of the same row as
-- before, or as vacant as before.
theorem current_of_untouched (hadm : Admissible state message) {address : Int}
    (h : ∀ row ∈ state.monitor.rows message, row.address ≠ some address) {uuid : Uuid} {row : Row}
    (haddress : row.address = some address) :
    state.monitor.table.apply message uuid = some row ↔ state.monitor.table uuid = some row := by
  by_cases hnamed : ∃ change, (uuid, change) ∈ message
  · obtain ⟨change, hentry⟩ := hnamed
    constructor
    · intro hcurrent
      exact absurd haddress (h row (rows_of_named_after hadm.admits hentry hcurrent))
    · intro hbefore
      obtain ⟨seen, hseen, hkey⟩ := rows_of_named hadm.admits hentry hbefore
      exact absurd ((address_congr hkey).trans haddress) (h seen hseen)
  · push Not at hnamed
    rw [apply_of_not_mem hadm.admits hnamed]

theorem vacant_of_untouched (hadm : Admissible state message) {address : Int}
    (h : ∀ row ∈ state.monitor.rows message, row.address ≠ some address) :
    (state.monitor.table.apply message).Vacant address ↔ state.monitor.table.Vacant address := by
  constructor
  · intro hvacant uuid row hrow haddress
    exact hvacant uuid row ((current_of_untouched hadm h haddress).mpr hrow) haddress
  · intro hvacant uuid row hrow haddress
    exact hvacant uuid row ((current_of_untouched hadm h haddress).mp hrow) haddress

-- The mask of the cache after a message.
theorem mask_step (hinv : MirrorInv state) (bit : Nat) :
    (state.step message).monitor.data.config_data.trackingMask.testBit bit = true ↔
      state.monitor.table.Tracks bit ∨
        ∃ row ∈ state.monitor.rows message, row.Tracks bit := by
  rw [← hinv.mirror.mask bit]
  exact received_mask state.monitor message bit

-- Rows in the message are rows of the table before or after it.
theorem tracks_of_rows (hadm : Admissible state message) {bit : Nat}
    (h : ∃ row ∈ state.monitor.rows message, row.Tracks bit) :
    (state.monitor.table.apply message).Tracks bit ∨ state.monitor.table.Tracks bit := by
  obtain ⟨row, hrow, hbit⟩ := h
  rcases rows_cases hadm.admits hrow with ⟨uuid, hcurrent⟩ | ⟨uuid, hbefore, -⟩
  · exact Or.inl ⟨uuid, row, hcurrent, hbit⟩
  · exact Or.inr ⟨uuid, row, hbefore, hbit⟩

theorem tracks_after (hadm : Admissible state message) {bit : Nat}
    (h : (state.monitor.table.apply message).Tracks bit) :
    state.monitor.table.Tracks bit ∨
      ∃ row ∈ state.monitor.rows message, row.Tracks bit := by
  obtain ⟨uuid, row, hcurrent, hbit⟩ := h
  by_cases hnamed : ∃ change, (uuid, change) ∈ message
  · obtain ⟨change, hentry⟩ := hnamed
    exact Or.inr ⟨row, rows_of_named_after hadm.admits hentry hcurrent, hbit⟩
  · push Not at hnamed
    rw [apply_of_not_mem hadm.admits hnamed] at hcurrent
    exact Or.inl ⟨uuid, row, hcurrent, hbit⟩

-- The mask is right exactly if no realm loses its last enabled row.
theorem mask_sound_iff (hinv : MirrorInv state) (hadm : Admissible state message) :
    (∀ bit, (state.step message).monitor.data.config_data.trackingMask.testBit bit = true ↔
      (state.monitor.table.apply message).Tracks bit) ↔
    ∀ bit, state.monitor.table.Tracks bit →
      (state.monitor.table.apply message).Tracks bit := by
  constructor
  · intro hsound bit hbefore
    exact (hsound bit).mp ((mask_step hinv bit).mpr (Or.inl hbefore))
  · intro hkept bit
    rw [mask_step hinv bit]
    constructor
    · rintro (hbefore | hrows)
      · exact hkept bit hbefore
      · rcases tracks_of_rows hadm hrows with hafter | hbefore
        · exact hafter
        · exact hkept bit hbefore
    · exact tracks_after hadm

-- A notification is right exactly if the message adds a realm or names every
-- realm that is tracked.
theorem notified_sound_iff (hinv : MirrorInv state) :
    ((state.monitor.received message).notified = true ↔
      ¬ ∀ bit, state.monitor.data.config_data.trackingMask.testBit bit = true ↔
        (state.step message).monitor.data.config_data.trackingMask.testBit bit = true) ↔
    ((∃ bit, ¬ state.monitor.table.Tracks bit ∧
        ∃ row ∈ state.monitor.rows message, row.Tracks bit) ∨
      ∀ bit, state.monitor.table.Tracks bit →
        ∃ row ∈ state.monitor.rows message, row.Tracks bit) := by
  rw [received_notified, not_iff_not]
  simp only [mask_step hinv, hinv.mirror.mask]
  constructor
  · intro hsame
    by_cases hadded : ∃ bit, ¬ state.monitor.table.Tracks bit ∧
        ∃ row ∈ state.monitor.rows message, row.Tracks bit
    · exact Or.inl hadded
    · push Not at hadded
      refine Or.inr fun bit hbefore => ?_
      have hkept := hsame.mpr fun bit => ⟨Or.inl, fun hnew => hnew.elim id fun hrows => ?_⟩
      · exact (hkept bit).mp hbefore
      · by_contra hnot
        obtain ⟨row, hrow, hbit⟩ := hrows
        exact hadded bit hnot row hrow hbit
  · intro hallowed
    constructor
    · intro hsame bit
      exact ⟨Or.inl, fun hnew => hnew.elim id (hsame bit).mpr⟩
    · intro hsame bit
      rcases hallowed with ⟨added, hnot, hrows⟩ | hall
      · exact absurd ((hsame added).mpr (Or.inr hrows)) hnot
      · exact ⟨hall bit, fun hrows => (hsame bit).mpr (Or.inr hrows)⟩

-- A cell that the message leads to shows its current row, or a row that the
-- message deletes.
theorem touched_cases (hinv : MirrorInv state) (hadm : Admissible state message) {address : Int}
    (h : ∃ row ∈ state.monitor.rows message, row.address = some address) :
    (∃ uuid row, state.monitor.table.apply message uuid = some row ∧
        row.address = some address ∧
        (state.step message).monitor.data.cache address = row.cell) ∨
      ∃ earlier row later,
        state.monitor.table.transitions message = earlier ++ (some row, none) :: later ∧
        row.address = some address ∧
        (∀ other ∈ selectedRows later, other.address ≠ some address) ∧
        (state.step message).monitor.data.cache address = row.cell := by
  have hrows := rows_address hinv.keyed hadm.admits hadm.keyed
  obtain ⟨earlier, before, after, later, row, hsplit, hselected, haddress, hlast⟩ :=
    exists_last_row h
  have hcell := cell_of_last hrows hsplit hselected haddress hlast
  obtain ⟨uuid, -, hafter⟩ := transitions_cases hadm.admits hsplit
  cases after with
  | some current =>
      obtain rfl := Option.some.inj hselected
      exact Or.inl ⟨uuid, current, hafter.symm, haddress, hcell⟩
  | none =>
      rw [selected_none] at hselected
      subst hselected
      exact Or.inr ⟨earlier, row, later, hsplit, haddress, hlast, hcell⟩

-- The row of a deletion was the row of its cell.
theorem deleted_past (hinv : MirrorInv state) (hadm : Admissible state message) {address : Int}
    {earlier later : List (Option Row × Option Row)} {row : Row}
    (hsplit : state.monitor.table.transitions message = earlier ++ (some row, none) :: later)
    (haddress : row.address = some address)
    (hvacant : (state.monitor.table.apply message).Vacant address) :
    ∃ past, (state.step message).past address = some past ∧ past.cleared = row.cleared := by
  obtain ⟨uuid, hbefore, -⟩ := transitions_cases hadm.admits hsplit
  obtain ⟨past, hpast, hkey⟩ := hinv.recorded uuid row address hbefore.symm haddress
  exact ⟨past, (past_of_vacant hadm.admits hvacant).trans hpast, cleared_congr hkey⟩

theorem current_sound (hinv : MirrorInv state) (hadm : Admissible state message)
    (hallowed : MirrorAllowed state message) {uuid : Uuid} {row : Row} {address : Int}
    (hcurrent : state.monitor.table.apply message uuid = some row)
    (haddress : row.address = some address) :
    (state.step message).monitor.data.cache address = row.cell := by
  have hrows := rows_address hinv.keyed hadm.admits hadm.keyed
  by_cases htouched : ∃ row ∈ state.monitor.rows message, row.address = some address
  · rcases touched_cases hinv hadm htouched with
      ⟨uuid', shown, hshown, haddress', hcell⟩ |
      ⟨earlier, deleted, later, hsplit, haddress', hlast, hcell⟩
    · obtain rfl := hadm.keyed.apart uuid uuid' row shown hcurrent hshown
        (haddress.trans haddress'.symm)
      obtain rfl := Option.some.inj (hcurrent.symm.trans hshown)
      exact hcell
    · have hleaves := hallowed.deletions earlier deleted later address hsplit haddress' hlast
      rw [hcell, hleaves.replaced uuid row hcurrent haddress]
  · push Not at htouched
    have hbefore := (current_of_untouched hadm htouched haddress).mp hcurrent
    calc (state.step message).monitor.data.cache address
        = state.monitor.data.cache address := cell_untouched hrows htouched
      _ = row.cell := hinv.mirror.current uuid row address hbefore haddress

theorem deleted_sound (hinv : MirrorInv state) (hadm : Admissible state message)
    (hallowed : MirrorAllowed state message) {row : Row} {address : Int}
    (hpast : (state.step message).past address = some row)
    (hvacant : (state.monitor.table.apply message).Vacant address) :
    (state.step message).monitor.data.cache address = row.cleared := by
  have hrows := rows_address hinv.keyed hadm.admits hadm.keyed
  by_cases htouched : ∃ row ∈ state.monitor.rows message, row.address = some address
  · rcases touched_cases hinv hadm htouched with
      ⟨uuid, shown, hshown, haddress', -⟩ |
      ⟨earlier, deleted, later, hsplit, haddress', hlast, hcell⟩
    · exact absurd haddress' (hvacant uuid shown hshown)
    · have hleaves := hallowed.deletions earlier deleted later address hsplit haddress' hlast
      obtain ⟨past, hpast', hcleared⟩ := deleted_past hinv hadm hsplit haddress' hvacant
      obtain rfl := Option.some.inj (hpast'.symm.trans hpast)
      rw [hcell, hleaves.vacant hvacant, hcleared]
  · push Not at htouched
    rw [past_of_vacant hadm.admits hvacant] at hpast
    have hbefore := (vacant_of_untouched hadm htouched).mp hvacant
    calc (state.step message).monitor.data.cache address
        = state.monitor.data.cache address := cell_untouched hrows htouched
      _ = row.cleared := hinv.mirror.deleted address row hpast hbefore

-- The cells of the sound cache say what a deleted row has to leave behind.
theorem deletions_of_sound (hinv : MirrorInv state) (hadm : Admissible state message)
    (hmirror : Mirror (state.step message)) {address : Int}
    {earlier later : List (Option Row × Option Row)} {row : Row}
    (hsplit : state.monitor.table.transitions message = earlier ++ (some row, none) :: later)
    (haddress : row.address = some address)
    (hlast : ∀ other ∈ selectedRows later, other.address ≠ some address) :
    row.Leaves address (state.monitor.table.apply message) := by
  have hrows := rows_address hinv.keyed hadm.admits hadm.keyed
  have hcell : (state.step message).monitor.data.cache address = row.cell :=
    cell_of_last hrows hsplit rfl haddress hlast
  constructor
  · intro uuid current hcurrent haddress'
    exact (hmirror.current uuid current address hcurrent haddress').symm.trans hcell
  · intro hvacant
    obtain ⟨past, hpast, hcleared⟩ := deleted_past hinv hadm hsplit haddress hvacant
    rw [← hcell, ← hcleared]
    exact hmirror.deleted address past hpast hvacant

-- One message keeps the mirror exactly if it is allowed.
theorem mirrorSound_iff (hinv : MirrorInv state) (hadm : Admissible state message) :
    MirrorSound state message ↔ MirrorAllowed state message := by
  constructor
  · intro hsound
    exact
      { deletions := fun _ _ _ _ hsplit haddress hlast =>
          deletions_of_sound hinv hadm hsound.mirror hsplit haddress hlast
        realms := (mask_sound_iff hinv hadm).mp hsound.mirror.mask
        announced := (notified_sound_iff hinv).mp hsound.notified }
  · intro hallowed
    exact
      { mirror :=
          { current := fun _ _ _ hcurrent haddress =>
              current_sound hinv hadm hallowed hcurrent haddress
            deleted := fun _ _ hpast hvacant => deleted_sound hinv hadm hallowed hpast hvacant
            mask := (mask_sound_iff hinv hadm).mpr hallowed.realms }
        notified := (notified_sound_iff hinv).mpr hallowed.announced }

theorem mirrorInv_step (hinv : MirrorInv state) (hadm : Admissible state message)
    (hsound : MirrorSound state message) : MirrorInv (state.step message) :=
  { mirror := hsound.mirror
    keyed := hadm.keyed
    recorded := fun _ _ _ hcurrent haddress => recorded_step hinv hadm hcurrent haddress }

end Step

section Run

theorem mirrorInv_initial : MirrorInv .initial where
  mirror :=
    { current := fun _ _ _ hrow => nomatch hrow
      deleted := fun _ _ hpast => nomatch hpast
      mask := by
        intro bit
        simp [BufmonTable.Tracks, Recorded.initial, Monitor.initial, bst_ovsdb_cache] }
  keyed :=
    { decoded := fun _ _ hrow => nomatch hrow
      apart := fun _ _ _ _ hrow => nomatch hrow }
  recorded := fun _ _ _ hrow => nomatch hrow

-- The cache mirrors the table after every message of a run exactly if all its
-- messages are allowed.
theorem cache_mirrors_iff (messages : List Message)
    (hadmissible : Along Recorded.step Admissible .initial messages) :
    Along Recorded.step MirrorSound .initial messages ↔
      Along Recorded.step MirrorAllowed .initial messages := by
  constructor
  · intro hsound
    refine along_of_invariant MirrorInv ?_ ?_ _ messages mirrorInv_initial
      (along_and hadmissible hsound)
    · rintro state message hinv ⟨hadm, hmessage⟩
      exact mirrorInv_step hinv hadm hmessage
    · rintro state message hinv ⟨hadm, hmessage⟩
      exact (mirrorSound_iff hinv hadm).mp hmessage
  · intro hallowed
    refine along_of_invariant MirrorInv ?_ ?_ _ messages mirrorInv_initial
      (along_and hadmissible hallowed)
    · rintro state message hinv ⟨hadm, hmessage⟩
      exact mirrorInv_step hinv hadm ((mirrorSound_iff hinv hadm).mpr hmessage)
    · rintro state message hinv ⟨hadm, hmessage⟩
      exact (mirrorSound_iff hinv hadm).mpr hmessage

def countedQueue : Row :=
  { key := { name := "egress-uc-queue/uc-buffer-count/5/NONE".toList, hw_unit_id := 0 }
    values :=
      { counter_value := some 100
        trigger_threshold := some 80
        enabled := some true
        status := none } }

theorem keyed_single {row : Row} (h : row.decoded.isSome = true) :
    BufmonTable.Keyed (Function.update (fun _ => none) 0 (some row)) := by
  have honly : ∀ uuid other, Function.update (fun _ => none) 0 (some row) uuid = some other →
      uuid = 0 ∧ other = row := by
    intro uuid other hother
    by_cases huuid : uuid = 0
    · subst huuid
      rw [Function.update_self] at hother
      exact ⟨rfl, (Option.some.inj hother).symm⟩
    · rw [Function.update_of_ne huuid] at hother
      cases hother
  constructor
  · intro uuid other hother
    rw [(honly uuid other hother).2]
    exact h
  · intro uuid uuid' other other' hother hother' _
    rw [(honly uuid other hother).1, (honly uuid' other' hother').1]

theorem countedQueue_admissible : Admissible .initial [(0, .insert countedQueue)] where
  admits := { once := by simp, fits := by simp [Change.Fits, Recorded.initial, Monitor.initial] }
  keyed := keyed_single (by decide +kernel)

-- A row that is inserted is mirrored.
theorem inserted_queue_mirrored :
    Along Recorded.step MirrorSound .initial [[(0, .insert countedQueue)]] := by
  refine (cache_mirrors_iff [[(0, .insert countedQueue)]] ⟨countedQueue_admissible, trivial⟩).mpr
    ⟨⟨?_, ?_, ?_⟩, trivial⟩
  · intro earlier row later address hsplit
    have hmem : (some row, none) ∈ [((none : Option Row), some countedQueue)] := by
      have htransitions : Recorded.initial.monitor.table.transitions [(0, .insert countedQueue)] =
          [(none, some countedQueue)] := rfl
      rw [htransitions] at hsplit
      simp [hsplit]
    simp at hmem
  · rintro bit ⟨uuid, row, hrow, -⟩
    cases hrow
  · refine Or.inr ?_
    rintro bit ⟨uuid, row, hrow, -⟩
    cases hrow

-- The row of an enabled counter is deleted; its cell keeps the counter and its
-- realm stays in the mask.
def countedQueueLeaves : List Message := [[(0, .insert countedQueue)], [(0, .delete)]]

theorem deleted_row_stays_tracked :
    Along Recorded.step Admissible .initial countedQueueLeaves ∧
      ¬ Along Recorded.step MirrorSound .initial countedQueueLeaves := by
  have hrows : ∀ uuid,
      (run Recorded.step .initial countedQueueLeaves).monitor.table uuid = none := by
    intro uuid
    by_cases huuid : uuid = 0
    · subst huuid
      rfl
    · exact (Function.update_of_ne huuid _ _).trans (Function.update_of_ne huuid _ _)
  constructor
  · refine ⟨countedQueue_admissible, ⟨⟨by simp, ?_⟩, ?_⟩, trivial⟩
    · simp [Change.Fits, Recorded.step, Monitor.step, BufmonTable.apply, BufmonTable.change,
        Change.after]
    · constructor
      · intro uuid row hrow
        cases (hrows uuid).symm.trans hrow
      · intro uuid uuid' row row' hrow
        cases (hrows uuid).symm.trans hrow
  · intro hsound
    have hmask := (hsound.2.1.mirror.mask BVIEW_BST_REALM_ID.EGRESS_UC_QUEUE.toNat).mp
      (by decide +kernel)
    obtain ⟨uuid, row, hrow, -⟩ := hmask
    cases (hrows uuid).symm.trans hrow

end Run

end BroadView.Ovsdb
