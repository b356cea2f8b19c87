import BroadView.Ovsdb.Key.Theorems

namespace BroadView.Ovsdb

open CString

section Arithmetic

theorem toInt_ofNat_small {n : Nat} (h : n ≤ 4096) : (Int32.ofNat n).toInt = n := by
  rw [Int32.toInt_ofNat', Int.bmod_eq_of_le]
  · simp only [Int32.size]
    omega
  · simp only [Int32.size]
    omega

theorem toInt_sub_one {x : Int32} {k : Int} (hlow : 0 ≤ k) (hhigh : k < 4096) :
    (x - 1).toInt = k ↔ x.toInt = k + 1 := by
  have hx := x.le_toInt
  have hx' := x.toInt_lt
  have hone : (1 : Int32).toInt = 1 := by decide
  rw [Int32.toInt_sub, hone, Int.bmod_def]
  omega

theorem toInt_base_add {base x : Int32} {b c : Int} (hbase : base.toInt = b) (hb : 0 ≤ b)
    (hc : 0 ≤ c) (hsmall : b + c < 4096) : (base + x).toInt = b + c ↔ x.toInt = c := by
  have hx := x.le_toInt
  have hx' := x.toInt_lt
  rw [Int32.toInt_add, hbase, Int.bmod_def]
  omega

theorem toInt_row {port : Int32} {r columns : Nat} (hport : port.toInt = r + 1) (hr : r < 4096)
    (hcolumns : columns ≤ 4096) (hsmall : r * columns < 4096) :
    ((port - 1) * Int32.ofNat columns).toInt = (r * columns : Nat) := by
  have hpred : (port - 1).toInt = r := (toInt_sub_one (by omega) (by omega)).mpr hport
  rw [Int32.toInt_mul, hpred, toInt_ofNat_small hcolumns, ← Int.natCast_mul, Int.bmod_eq_of_le]
  · omega
  · omega

end Arithmetic

section Cells

variable (entry : BidEntry) (asic : Int32)

-- The cell of the one-based row and column of a counter.
def BidEntry.cell (row column : Nat) : Int :=
  asic.toInt * sizeof_stat_db + entry.offset + (row * entry.num_of_columns + column : Nat)

structure BidEntry.InTable (address : Int) : Prop where
  unit : 0 ≤ asic.toInt ∧ asic.toInt < BVIEW_MAX_ASICS_ON_A_PLATFORM
  cell : ∃ i : Nat, i < entry.size ∧ address = asic.toInt * sizeof_stat_db + entry.offset + i

def BidEntry.InRow (port : Int32) (address : Int) : Prop :=
  ∃ row column, row < entry.num_of_rows ∧ column < entry.num_of_columns ∧
    port.toInt = row + 1 ∧ address = entry.cell asic row column

-- A key and the cell that the two functions make of it.
def Addressed (asic : Int32) (ovsdb_key : List Char) (bid : Nat) (port queue : Int32)
    (address : Int) : Prop :=
  bst_ovsdb_row_info_get ovsdb_key 0 = .row bid port queue ∧
    bst_ovsdb_cache_row_get asic bid port queue = some address

structure KeySafe (asic : Int32) (ovsdb_key : List Char) : Prop where
  fits : bst_ovsdb_row_info_get ovsdb_key 0 ≠ .overrun
  inTable : ∀ bid entry port queue address, bid_tab[bid]? = some entry →
    Addressed asic ovsdb_key bid port queue address → entry.InTable asic address
  inRow : ∀ bid entry port queue address, bid_tab[bid]? = some entry →
    entry.is_double_indexed = true → Addressed asic ovsdb_key bid port queue address →
    entry.InRow asic port address

def KeysApart (asic asic' : Int32) (ovsdb_key ovsdb_key' : List Char) : Prop :=
  ∀ bid port queue address bid' port' queue' address',
    Addressed asic ovsdb_key bid port queue address →
    Addressed asic' ovsdb_key' bid' port' queue' address' →
    (bid, port, queue) ≠ (bid', port', queue') → address ≠ address'

-- What a key says: a counter of the table and two numbers.
def Names (ovsdb_key : List Char) (bid : Nat) (entry : BidEntry) (first second : Int32) : Prop :=
  bid_tab[bid]? = some entry ∧ ∃ index1 index2,
    strtok '/' ovsdb_key =
      [entry.realm_name.toList, entry.counter_name.toList, index1, index2] ∧
    first = atoi index1 ∧ second = atoi index2

-- The upper bound of the source on the flattened numbers of a key.
def BidEntry.NotBeyond (first second : Int32) : Prop :=
  entry.Accepts (if entry.is_double_indexed then entry.position first (second - 1)
    else entry.position 0 (first - 1))

instance (first second : Int32) : Decidable (entry.NotBeyond first second) :=
  inferInstanceAs (Decidable (entry.Accepts _))

-- The numbers of a key, each within its own bounds.
def BidEntry.NumbersInRange (first second : Int32) : Prop :=
  if entry.is_double_indexed then
    1 ≤ first.toInt ∧ first.toInt ≤ entry.num_of_rows ∧
      1 ≤ second.toInt ∧ second.toInt ≤ entry.num_of_columns
  else if entry.is_indexed then
    1 ≤ first.toInt ∧ first.toInt ≤ entry.num_of_columns
  else True

structure KeyInRange (asic : Int32) (ovsdb_key : List Char) : Prop where
  fits : ovsdb_key.length < 1024
  numbers : ∀ bid entry first second, Names ovsdb_key bid entry first second →
    entry.NotBeyond first second →
    (0 ≤ asic.toInt ∧ asic.toInt < BVIEW_MAX_ASICS_ON_A_PLATFORM) ∧
      entry.NumbersInRange first second

-- A device key may carry any third field, which becomes its queue number.
def DeviceKeysAgree (ovsdb_key ovsdb_key' : List Char) : Prop :=
  ∀ bid entry first second first' second', Names ovsdb_key bid entry first second →
    Names ovsdb_key' bid entry first' second' → entry.is_indexed = false → first = first'

end Cells

section Addressed

variable {asic : Int32} {ovsdb_key : List Char} {bid : Nat} {entry : BidEntry}
  {port queue first second : Int32} {address : Int}

theorem row_info_get_overrun_iff {port₀ : Int32} :
    bst_ovsdb_row_info_get ovsdb_key port₀ = .overrun ↔ 1024 ≤ ovsdb_key.length := by
  grind [bst_ovsdb_row_info_get]

theorem row_info_get_row {port₀ : Int32}
    (h : bst_ovsdb_row_info_get ovsdb_key port₀ = .row bid port queue) :
    ovsdb_key.length < 1024 ∧ ∃ entry first second, Names ovsdb_key bid entry first second ∧
      entry.decoded bid port₀ first second = .row bid port queue := by
  by_cases hlength : 1024 ≤ ovsdb_key.length
  · rw [bst_ovsdb_row_info_get, if_pos hlength] at h
    cases h
  · refine ⟨by omega, ?_⟩
    rw [bst_ovsdb_row_info_get, if_neg hlength] at h
    split at h
    case h_2 => cases h
    case h_1 realm name index1 index2 htokens =>
      cases hfind : bid_find realm name with
      | none => simp [hfind] at h
      | some bid' =>
          obtain ⟨entry, hentry, rfl, rfl⟩ := bid_find_some hfind
          have hrow := bst_ovsdb_row_info_get_eq hentry (by omega) htokens port₀
          rw [bst_ovsdb_row_info_get, if_neg hlength, htokens] at hrow
          have hdecoded : entry.decoded bid' port₀ (atoi index1) (atoi index2) =
              .row bid port queue := hrow.symm.trans h
          obtain ⟨rfl, -⟩ := decoded_cell hentry hdecoded 0
          exact ⟨entry, _, _, ⟨hentry, index1, index2, htokens, rfl, rfl⟩, hdecoded⟩

theorem notBeyond_iff : entry.NotBeyond first second ↔
    entry.decoded bid 0 first second =
      .row bid (if entry.is_double_indexed then first else 0)
        (if entry.is_double_indexed then second else first) := by
  unfold BidEntry.NotBeyond BidEntry.decoded
  by_cases hd : entry.is_double_indexed = true
  · simp [hd]
  · simp [hd]

theorem addressed_iff : Addressed asic ovsdb_key bid port queue address ↔
    ∃ entry first second, ovsdb_key.length < 1024 ∧ Names ovsdb_key bid entry first second ∧
      entry.NotBeyond first second ∧
      port = (if entry.is_double_indexed then first else 0) ∧
      queue = (if entry.is_double_indexed then second else first) ∧
      address = cellAddress asic entry (entry.position port (queue - 1)) := by
  constructor
  · rintro ⟨hinfo, hcell⟩
    obtain ⟨hlength, entry, first, second, hnames, hdecoded⟩ := row_info_get_row hinfo
    obtain ⟨-, hport, hqueue, -, hcell'⟩ := decoded_cell hnames.1 hdecoded asic
    have hnot : entry.NotBeyond first second :=
      (@notBeyond_iff bid entry first second).mpr (by rw [hdecoded, hport, hqueue])
    exact ⟨entry, first, second, hlength, hnames, hnot, hport, hqueue,
      Option.some.inj (hcell.symm.trans hcell')⟩
  · rintro ⟨entry, first, second, hlength, hnames, hnot, hport, hqueue, rfl⟩
    obtain ⟨hbid, index1, index2, htokens, rfl, rfl⟩ := hnames
    have hdecoded := (@notBeyond_iff bid entry _ _).mp hnot
    rw [← hport, ← hqueue] at hdecoded
    obtain ⟨-, -, -, -, hcell⟩ := decoded_cell hbid hdecoded asic
    exact ⟨(bst_ovsdb_row_info_get_eq hbid hlength htokens 0).trans hdecoded, hcell⟩

end Addressed

section Position

variable {entry : BidEntry} (asic : Int32) {row column : Nat} {port index : Int32}

theorem row_offset_lt (hentry : entry.WellFormed) (hrow : row < entry.num_of_rows)
    (hcolumn : column < entry.num_of_columns) :
    row * entry.num_of_columns + column < entry.size := by
  rw [hentry.size_eq]
  have hnext : (row + 1) * entry.num_of_columns ≤ entry.num_of_rows * entry.num_of_columns :=
    Nat.mul_le_mul_right _ hrow
  rw [Nat.succ_mul] at hnext
  omega

theorem columns_le (hentry : entry.WellFormed) : entry.num_of_columns ≤ entry.size := by
  rw [hentry.size_eq]
  exact Nat.le_mul_of_pos_left _ hentry.rows_pos

-- Within a row of the named port the numbers are what the position says.
theorem position_double_iff (hentry : entry.WellFormed) (hd : entry.is_double_indexed = true)
    (hrow : row < entry.num_of_rows) (hcolumn : column < entry.num_of_columns)
    (hport : port.toInt = row + 1) :
    (entry.position port index).toInt = (row * entry.num_of_columns + column : Nat) ↔
      index.toInt = column := by
  have hlt := row_offset_lt hentry hrow hcolumn
  have hsize := hentry.size_le
  have hcolumns := columns_le hentry
  have hrow' : row ≤ row * entry.num_of_columns := Nat.le_mul_of_pos_right _ hentry.columns_pos
  have hbase : ((port - 1) * Int32.ofNat entry.num_of_columns).toInt =
      (row * entry.num_of_columns : Nat) := toInt_row hport (by omega) (by omega) (by omega)
  simp only [BidEntry.position, hd, if_true]
  rw [Int.natCast_add]
  exact toInt_base_add hbase (by omega) (by omega) (by omega)

theorem accepts_iff (hentry : entry.WellFormed) {position : Int32} :
    entry.Accepts position ↔ position.toInt < entry.size := by
  rw [BidEntry.Accepts, Int32.lt_iff_toInt_lt, toInt_ofNat_small hentry.size_le]

-- The address of a cell is the position in its table shifted by the unit.
theorem cellAddress_eq_iff {position : Int32} {i : Nat} :
    cellAddress asic entry position = asic.toInt * sizeof_stat_db + entry.offset + i ↔
      position.toInt = i := by
  unfold cellAddress
  omega

theorem inRow_iff (hentry : entry.WellFormed) (hd : entry.is_double_indexed = true)
    {first second : Int32} :
    entry.InRow asic first (cellAddress asic entry (entry.position first (second - 1))) ↔
      entry.NumbersInRange first second := by
  have hsize := hentry.size_le
  have hcolumns := columns_le hentry
  simp only [BidEntry.NumbersInRange, hd, if_true]
  constructor
  · rintro ⟨row, column, hrow, hcolumn, hport, haddress⟩
    have hposition := (cellAddress_eq_iff asic).mp haddress
    have hindex := (position_double_iff hentry hd hrow hcolumn hport).mp hposition
    have hsecond := (toInt_sub_one (by omega) (by omega)).mp hindex
    omega
  · rintro ⟨hfirst, hfirst', hsecond, hsecond'⟩
    refine ⟨(first.toInt - 1).toNat, (second.toInt - 1).toNat, by omega, by omega, by omega, ?_⟩
    have hindex : (second - 1).toInt = (second.toInt - 1).toNat :=
      (toInt_sub_one (by omega) (by omega)).mpr (by omega)
    exact (cellAddress_eq_iff asic).mpr
      ((position_double_iff hentry hd (by omega) (by omega) (by omega)).mpr hindex)

theorem inTable_of_inRow (hentry : entry.WellFormed) {address : Int}
    (hunit : 0 ≤ asic.toInt ∧ asic.toInt < BVIEW_MAX_ASICS_ON_A_PLATFORM)
    (h : entry.InRow asic port address) : entry.InTable asic address := by
  obtain ⟨row, column, hrow, hcolumn, -, rfl⟩ := h
  exact ⟨hunit, _, row_offset_lt hentry hrow hcolumn, rfl⟩

theorem inTable_flat_iff (hentry : entry.WellFormed) (hd : entry.is_double_indexed = false)
    {first : Int32} (second : Int32) :
    entry.InTable asic (cellAddress asic entry (entry.position 0 (first - 1))) ↔
      (0 ≤ asic.toInt ∧ asic.toInt < BVIEW_MAX_ASICS_ON_A_PLATFORM) ∧
        entry.NumbersInRange first second := by
  have hsize := hentry.size_le
  have hcolumns : entry.size = entry.num_of_columns := by
    rw [hentry.size_eq, hentry.flat_rows hd, Nat.one_mul]
  simp only [BidEntry.NumbersInRange, hd, Bool.false_eq_true, if_false]
  by_cases hi : entry.is_indexed = true
  · have hposition : entry.position 0 (first - 1) = first - 1 := by
      simp [BidEntry.position, hd, hi]
    simp only [hi, if_true, hposition]
    constructor
    · rintro ⟨hunit, i, hlt, haddress⟩
      have hindex := (cellAddress_eq_iff asic).mp haddress
      have hfirst := (toInt_sub_one (by omega) (by omega)).mp hindex
      exact ⟨hunit, by omega, by omega⟩
    · rintro ⟨hunit, hfirst, hfirst'⟩
      refine ⟨hunit, (first.toInt - 1).toNat, by omega, (cellAddress_eq_iff asic).mpr ?_⟩
      exact (toInt_sub_one (by omega) (by omega)).mpr (by omega)
  · have hposition : entry.position 0 (first - 1) = 0 := by
      simp [BidEntry.position, hd, hi]
    have hpos := hentry.columns_pos
    simp only [hi, hposition]
    constructor
    · rintro ⟨hunit, -⟩
      exact ⟨hunit, trivial⟩
    · rintro ⟨hunit, -⟩
      exact ⟨hunit, 0, by omega, (cellAddress_eq_iff asic).mpr (by decide)⟩

end Position

section KeySafe

variable {asic asic' : Int32} {ovsdb_key ovsdb_key' : List Char}

-- One key is safe exactly when it is short enough and its numbers, unless the
-- upper bound rejects them, are each in range.
theorem keySafe_iff : KeySafe asic ovsdb_key ↔ KeyInRange asic ovsdb_key := by
  constructor
  · rintro ⟨hfits, hinTable, hinRow⟩
    have hlength : ovsdb_key.length < 1024 := by
      by_contra hlong
      exact hfits (row_info_get_overrun_iff.mpr (by omega))
    refine ⟨hlength, ?_⟩
    intro bid entry first second hnames hnot
    have hentry := bid_tab_wellFormed hnames.1
    have haddressed := (@addressed_iff asic _ _ _ _ _).mpr
      ⟨entry, first, second, hlength, hnames, hnot, rfl, rfl, rfl⟩
    have htable := hinTable bid entry _ _ _ hnames.1 haddressed
    by_cases hd : entry.is_double_indexed = true
    · have hrow := hinRow bid entry _ _ _ hnames.1 hd haddressed
      simp only [hd, if_true] at hrow
      exact ⟨htable.unit, (inRow_iff asic hentry hd).mp hrow⟩
    · simp only [hd, Bool.false_eq_true, if_false] at htable
      exact (inTable_flat_iff asic hentry (by simpa using hd) second).mp htable
  · rintro ⟨hlength, hnumbers⟩
    have hrow : ∀ bid entry port queue address, bid_tab[bid]? = some entry →
        Addressed asic ovsdb_key bid port queue address →
        entry.InTable asic address ∧
          (entry.is_double_indexed = true → entry.InRow asic port address) := by
      intro bid entry port queue address hbid haddressed
      obtain ⟨entry', first, second, -, hnames, hnot, rfl, rfl, rfl⟩ := addressed_iff.mp haddressed
      obtain rfl : entry' = entry := Option.some.inj (hnames.1.symm.trans hbid)
      have hentry := bid_tab_wellFormed hbid
      obtain ⟨hunit, hrange⟩ := hnumbers bid entry' first second hnames hnot
      by_cases hd : entry'.is_double_indexed = true
      · simp only [hd, if_true]
        have hin := (inRow_iff asic hentry hd).mpr hrange
        exact ⟨inTable_of_inRow asic hentry hunit hin, fun _ => hin⟩
      · simp only [hd, Bool.false_eq_true, if_false]
        exact ⟨(inTable_flat_iff asic hentry (by simpa using hd) second).mpr ⟨hunit, hrange⟩,
          fun hdouble => hdouble.elim⟩
    refine ⟨?_, ?_, ?_⟩
    · intro hoverrun
      exact absurd (row_info_get_overrun_iff.mp hoverrun) (by omega)
    · intro bid entry port queue address hbid haddressed
      exact (hrow bid entry port queue address hbid haddressed).1
    · intro bid entry port queue address hbid hd haddressed
      exact (hrow bid entry port queue address hbid haddressed).2 hd

end KeySafe

section Apart

variable {entry entry' : BidEntry} {bid bid' : Nat} {asic : Int32}

-- The tables of two counters do not overlap.
theorem bid_tab_disjoint : ∀ bid bid' : Fin 15, bid ≠ bid' → ∀ entry,
    bid_tab[bid.val]? = some entry → ∀ entry', bid_tab[bid'.val]? = some entry' →
    entry.offset + entry.size ≤ entry'.offset ∨ entry'.offset + entry'.size ≤ entry.offset := by
  decide +kernel

theorem same_bid (hbid : bid_tab[bid]? = some entry) (hbid' : bid_tab[bid']? = some entry')
    {address : Int} (h : entry.InTable asic address) (h' : entry'.InTable asic address) :
    bid = bid' := by
  obtain ⟨-, i, hi, rfl⟩ := h
  obtain ⟨-, i', hi', heq⟩ := h'
  have hlt : bid < 15 := (List.getElem?_eq_some_iff.mp hbid).1
  have hlt' : bid' < 15 := (List.getElem?_eq_some_iff.mp hbid').1
  by_contra hne
  have hdisjoint := bid_tab_disjoint ⟨bid, hlt⟩ ⟨bid', hlt'⟩ (by simpa using hne) entry hbid
    entry' hbid'
  omega

theorem cell_inj (hentry : entry.WellFormed) {row column row' column' : Nat}
    (hcolumn : column < entry.num_of_columns) (hcolumn' : column' < entry.num_of_columns)
    (h : entry.cell asic row column = entry.cell asic row' column') :
    row = row' ∧ column = column' := by
  have hpos := hentry.columns_pos
  have hflat : row * entry.num_of_columns + column = row' * entry.num_of_columns + column' := by
    unfold BidEntry.cell at h
    omega
  have hmod := congrArg (· % entry.num_of_columns) hflat
  have hdiv := congrArg (· / entry.num_of_columns) hflat
  simp only [Nat.mul_add_mod', Nat.mod_eq_of_lt hcolumn, Nat.mod_eq_of_lt hcolumn'] at hmod
  simp only [Nat.add_comm _ column, Nat.add_comm _ column', Nat.add_mul_div_right _ _ hpos,
    Nat.div_eq_of_lt hcolumn, Nat.div_eq_of_lt hcolumn', Nat.zero_add] at hdiv
  exact ⟨hdiv, hmod⟩

-- In range numbers of one counter that lead to one cell are equal, but for the
-- free number of a device key.
theorem numbers_eq (hentry : entry.WellFormed) {first second first' second' : Int32}
    (hrange : entry.NumbersInRange first second) (hrange' : entry.NumbersInRange first' second')
    (hdevice : entry.is_indexed = false → first = first')
    (h : cellAddress asic entry
        (entry.position (if entry.is_double_indexed then first else 0)
          ((if entry.is_double_indexed then second else first) - 1)) =
      cellAddress asic entry
        (entry.position (if entry.is_double_indexed then first' else 0)
          ((if entry.is_double_indexed then second' else first') - 1))) :
    (if entry.is_double_indexed then first else 0) =
        (if entry.is_double_indexed then first' else 0) ∧
      (if entry.is_double_indexed then second else first) =
        (if entry.is_double_indexed then second' else first') := by
  by_cases hd : entry.is_double_indexed = true
  · simp only [hd, if_true] at h ⊢
    obtain ⟨row, column, -, hcolumn, hport, hcell⟩ := (inRow_iff asic hentry hd).mpr hrange
    obtain ⟨row', column', -, hcolumn', hport', hcell'⟩ := (inRow_iff asic hentry hd).mpr hrange'
    obtain ⟨rfl, rfl⟩ := cell_inj hentry hcolumn hcolumn' (hcell.symm.trans (h.trans hcell'))
    have hfirst : first = first' := Int32.toInt_inj.mp (by omega)
    have hposition : (entry.position first (second - 1)).toInt =
        (entry.position first' (second' - 1)).toInt := by
      unfold cellAddress at h
      omega
    simp only [BidEntry.position, hd, if_true, hfirst] at hposition
    have hindex : second - 1 = second' - 1 :=
      (Int32.add_right_inj _).mp (Int32.toInt_inj.mp hposition)
    exact ⟨hfirst, (Int32.sub_left_inj _).mp hindex⟩
  · simp only [hd] at h ⊢
    by_cases hi : entry.is_indexed = true
    · have hposition : (first - 1).toInt = (first' - 1).toInt := by
        simp only [BidEntry.position, hd, hi, Bool.false_eq_true, if_false, if_true,
          cellAddress] at h
        omega
      have hfirst : first = first' := (Int32.sub_left_inj _).mp (Int32.toInt_inj.mp hposition)
      exact ⟨rfl, by simpa using hfirst⟩
    · exact ⟨rfl, by simpa using hdevice (by simpa using hi)⟩

end Apart

section Theorem

variable (asic asic' : Int32) (ovsdb_key ovsdb_key' : List Char)

theorem notBeyond_device {entry : BidEntry} (hentry : entry.WellFormed)
    (hi : entry.is_indexed = false) (first second : Int32) : entry.NotBeyond first second := by
  have hd : entry.is_double_indexed = false := by
    by_contra hdouble
    rw [hentry.double_indexed (by simpa using hdouble)] at hi
    cases hi
  have hpos : 0 < entry.size := Nat.lt_of_lt_of_le hentry.columns_pos (columns_le hentry)
  rw [BidEntry.NotBeyond, accepts_iff hentry]
  simp only [BidEntry.position, hd, hi, Bool.false_eq_true, if_false]
  exact Int.natCast_pos.mpr hpos

-- Two rows of the table, whatever their keys, are safe and apart exactly when
-- each key fits the buffer and has its numbers in range, on the only unit, and
-- they are not two device keys with different third fields.
theorem key_parser_safe_iff :
    (KeySafe asic ovsdb_key ∧ KeySafe asic' ovsdb_key' ∧
        KeysApart asic asic' ovsdb_key ovsdb_key') ↔
      KeyInRange asic ovsdb_key ∧ KeyInRange asic' ovsdb_key' ∧
        DeviceKeysAgree ovsdb_key ovsdb_key' := by
  rw [keySafe_iff, keySafe_iff]
  refine and_congr_right fun hrange => and_congr_right fun hrange' => ?_
  have hunit : ∀ {asic₁ asic₂ : Int32},
      0 ≤ asic₁.toInt ∧ asic₁.toInt < BVIEW_MAX_ASICS_ON_A_PLATFORM →
      0 ≤ asic₂.toInt ∧ asic₂.toInt < BVIEW_MAX_ASICS_ON_A_PLATFORM → asic₁ = asic₂ := by
    intro asic₁ asic₂ h₁ h₂
    simp only [BVIEW_MAX_ASICS_ON_A_PLATFORM] at h₁ h₂
    exact Int32.toInt_inj.mp (by omega)
  constructor
  · intro hapart bid entry first second first' second' hnames hnames' hi
    have hentry := bid_tab_wellFormed hnames.1
    have hnot := notBeyond_device hentry hi first second
    have hnot' := notBeyond_device hentry hi first' second'
    obtain ⟨hasic, -⟩ := hrange.numbers bid entry first second hnames hnot
    obtain ⟨hasic', -⟩ := hrange'.numbers bid entry first' second' hnames' hnot'
    obtain rfl := hunit hasic hasic'
    have haddressed := (@addressed_iff asic _ _ _ _ _).mpr
      ⟨entry, first, second, hrange.fits, hnames, hnot, rfl, rfl, rfl⟩
    have haddressed' := (@addressed_iff asic _ _ _ _ _).mpr
      ⟨entry, first', second', hrange'.fits, hnames', hnot', rfl, rfl, rfl⟩
    have hd : entry.is_double_indexed = false := by
      by_contra hdouble
      rw [hentry.double_indexed (by simpa using hdouble)] at hi
      cases hi
    by_contra hne
    refine hapart _ _ _ _ _ _ _ _ haddressed haddressed' ?_ ?_
    · simpa [hd] using hne
    · simp [BidEntry.position, hd, hi]
  · intro hdevice bid port queue address bid' port' queue' address' haddressed haddressed' hne heq
    obtain ⟨entry, first, second, -, hnames, hnot, rfl, rfl, rfl⟩ := addressed_iff.mp haddressed
    obtain ⟨entry', first', second', -, hnames', hnot', rfl, rfl, rfl⟩ :=
      addressed_iff.mp haddressed'
    obtain ⟨hasic, hnumbers⟩ := hrange.numbers bid entry first second hnames hnot
    obtain ⟨hasic', hnumbers'⟩ := hrange'.numbers bid' entry' first' second' hnames' hnot'
    obtain rfl := hunit hasic hasic'
    have htable := (keySafe_iff.mpr hrange).inTable bid entry _ _ _ hnames.1 haddressed
    have htable' := (keySafe_iff.mpr hrange').inTable bid' entry' _ _ _ hnames'.1 haddressed'
    obtain rfl := same_bid hnames.1 hnames'.1 htable (heq ▸ htable')
    obtain rfl : entry = entry' := Option.some.inj (hnames.1.symm.trans hnames'.1)
    obtain ⟨hport, hqueue⟩ := numbers_eq (bid_tab_wellFormed hnames.1) hnumbers hnumbers'
      (hdevice bid entry first second first' second' hnames hnames') heq
    exact hne (by rw [hport, hqueue])

-- Queue 9 of port 1 is the first cell of port 2, and queue 0 of port 1 is the
-- cell in front of the table, which the device counter owns.
theorem queue_number_spills :
    Addressed 0 "ingress-port-priority-group/um-share-buffer-count/1/9".toList 5 1 9 9 ∧
      Addressed 0 "ingress-port-priority-group/um-share-buffer-count/2/1".toList 5 2 1 9 ∧
      Addressed 0 "ingress-port-priority-group/um-share-buffer-count/1/0".toList 5 1 0 0 ∧
      ¬ KeySafe 0 "ingress-port-priority-group/um-share-buffer-count/1/9".toList := by
  refine ⟨⟨by decide +kernel, by decide +kernel⟩, ⟨by decide +kernel, by decide +kernel⟩,
    ⟨by decide +kernel, by decide +kernel⟩, ?_⟩
  intro hsafe
  have hnumbers := (keySafe_iff.mp hsafe).numbers 5 bid_tab[5] 1 9
    ⟨rfl, "1".toList, "9".toList, by decide +kernel, by decide, by decide⟩ (by decide +kernel)
  exact absurd hnumbers.2.2.2.2 (by decide +kernel)

end Theorem

end BroadView.Ovsdb
