import BroadView.Ovsdb.Key

namespace BroadView.Ovsdb

open CString Printf

section Entries

-- What the fifteen entries of the table have in common.
structure BidEntry.WellFormed (entry : BidEntry) : Prop where
  realm_ne : entry.realm_name.toList ≠ []
  realm_delim : '/' ∉ entry.realm_name.toList
  realm_length : entry.realm_name.toList.length ≤ 32
  counter_ne : entry.counter_name.toList ≠ []
  counter_delim : '/' ∉ entry.counter_name.toList
  counter_length : entry.counter_name.toList.length ≤ 32
  rows_pos : 0 < entry.num_of_rows
  columns_pos : 0 < entry.num_of_columns
  size_eq : entry.size = entry.num_of_rows * entry.num_of_columns
  size_le : entry.size ≤ 4096
  flat_rows : entry.is_double_indexed = false → entry.num_of_rows = 1
  device_columns : entry.is_indexed = false → entry.num_of_columns = 1
  double_indexed : entry.is_double_indexed = true → entry.is_indexed = true

theorem bid_tab_names : ∀ entry ∈ bid_tab,
    (entry.realm_name.toList ≠ [] ∧ '/' ∉ entry.realm_name.toList ∧
      entry.realm_name.toList.length ≤ 32) ∧
    entry.counter_name.toList ≠ [] ∧ '/' ∉ entry.counter_name.toList ∧
      entry.counter_name.toList.length ≤ 32 := by
  decide

theorem bid_tab_places_fit : ∀ entry ∈ bid_tab,
    (0 < entry.num_of_rows ∧ 0 < entry.num_of_columns ∧
      entry.size = entry.num_of_rows * entry.num_of_columns ∧ entry.size ≤ 4096) ∧
    (entry.is_double_indexed = false → entry.num_of_rows = 1) ∧
    (entry.is_indexed = false → entry.num_of_columns = 1) ∧
    (entry.is_double_indexed = true → entry.is_indexed = true) := by
  decide

theorem bid_tab_wellFormed {bid : Nat} {entry : BidEntry} (h : bid_tab[bid]? = some entry) :
    entry.WellFormed := by
  have hmem := List.mem_of_getElem? h
  obtain ⟨⟨hrealm, hrealm', hrealm''⟩, hcounter, hcounter', hcounter''⟩ := bid_tab_names entry hmem
  obtain ⟨⟨hrows, hcolumns, hsize, hsize'⟩, hflat, hdevice, hdouble⟩ :=
    bid_tab_places_fit entry hmem
  exact ⟨hrealm, hrealm', hrealm'', hcounter, hcounter', hcounter'', hrows, hcolumns, hsize, hsize',
    hflat, hdevice, hdouble⟩

theorem bid_tab_params_of_entry {bid : Nat} {entry : BidEntry} (h : bid_tab[bid]? = some entry) :
    bid_tab_params[bid]? = some entry.toBVIEW_BST_OVSDB_BID_PARAMS := by
  rw [bid_tab, List.getElem?_zipWith] at h
  cases hparams : bid_tab_params[bid]? with
  | none => simp [hparams] at h
  | some params =>
      cases hplace : bid_tab_places[bid]? with
      | none => simp [hparams, hplace] at h
      | some place =>
          simp only [hparams, hplace, Option.some.injEq] at h
          rw [← h]

-- No two entries share both names, so the search finds the entry itself.
theorem bid_find_entries : ∀ bid : Fin 15, ∀ entry, bid_tab[bid.val]? = some entry →
    bid_find entry.realm_name.toList entry.counter_name.toList = some bid.val := by
  decide +kernel

theorem bid_find_entry {bid : Nat} {entry : BidEntry} (h : bid_tab[bid]? = some entry) :
    bid_find entry.realm_name.toList entry.counter_name.toList = some bid := by
  have hbid : bid < 15 := (List.getElem?_eq_some_iff.mp h).1
  exact bid_find_entries ⟨bid, hbid⟩ entry h

theorem bid_find_some {bid : Nat} {realm name : List Char} (h : bid_find realm name = some bid) :
    ∃ entry, bid_tab[bid]? = some entry ∧ entry.realm_name.toList = realm ∧
      entry.counter_name.toList = name := by
  obtain ⟨hbid, hnames, -⟩ := List.findIdx?_eq_some_iff_getElem.mp h
  simp only [Bool.and_eq_true, decide_eq_true_eq] at hnames
  exact ⟨bid_tab[bid], List.getElem?_eq_getElem hbid, hnames⟩

end Entries

section Encode

variable {entry : BidEntry} (port index : Int32)

-- The third and fourth field of a key.
def BidEntry.indexTokens (entry : BidEntry) (port index : Int32) : List Char × List Char :=
  if entry.is_indexed then
    if entry.is_double_indexed then (showInt port.toInt, showInt index.toInt)
    else (showInt index.toInt, "NONE".toList)
  else ("NONE".toList, "NONE".toList)

def BidEntry.keyText (entry : BidEntry) (port index : Int32) : List Char :=
  let (first, second) := entry.indexTokens port index
  entry.realm_name.toList ++ '/' :: (entry.counter_name.toList ++ '/' :: (first ++ '/' :: second))

theorem showInt_delim (i : Int) : '/' ∉ showInt i := by
  intro h
  rcases mem_showInt h with heq | hdigit
  · exact absurd heq (by decide)
  · exact absurd hdigit (by decide)

theorem indexTokens_ne :
    (entry.indexTokens port index).1 ≠ [] ∧ (entry.indexTokens port index).2 ≠ [] := by
  have hnone : "NONE".toList ≠ [] := by decide
  unfold BidEntry.indexTokens
  split
  · split
    · exact ⟨showInt_ne_nil _, showInt_ne_nil _⟩
    · exact ⟨showInt_ne_nil _, hnone⟩
  · exact ⟨hnone, hnone⟩

theorem indexTokens_delim :
    '/' ∉ (entry.indexTokens port index).1 ∧ '/' ∉ (entry.indexTokens port index).2 := by
  have hnone : '/' ∉ "NONE".toList := by decide
  unfold BidEntry.indexTokens
  split
  · split
    · exact ⟨showInt_delim _, showInt_delim _⟩
    · exact ⟨showInt_delim _, hnone⟩
  · exact ⟨hnone, hnone⟩

theorem indexTokens_length :
    (entry.indexTokens port index).1.length ≤ 11 ∧
      (entry.indexTokens port index).2.length ≤ 11 := by
  have hnone : "NONE".toList.length ≤ 11 := by decide
  unfold BidEntry.indexTokens
  split
  · split
    · exact ⟨int32_length_le port, int32_length_le index⟩
    · exact ⟨int32_length_le index, hnone⟩
  · exact ⟨hnone, hnone⟩

theorem keyText_length (hentry : entry.WellFormed) : (entry.keyText port index).length ≤ 89 := by
  have hrealm := hentry.realm_length
  have hcounter := hentry.counter_length
  obtain ⟨hfirst, hsecond⟩ := @indexTokens_length entry port index
  simp only [BidEntry.keyText, List.length_append, List.length_cons]
  omega

section Buffer

variable {buffer : KeyBuffer} {text : List Char}

theorem field_src_string (h : text.length ≤ buffer.src_str_empty_size) :
    (buffer.field text).src_string = buffer.src_string ++ text :=
  strncat_eq h

theorem field_src_str_empty_size (h : text.length ≤ buffer.src_str_empty_size) :
    (buffer.field text).src_str_empty_size =
      buffer.src_str_empty_size - (buffer.src_string.length + text.length) := by
  rw [← List.length_append, ← field_src_string h]
  rfl

@[simp] theorem empty_src_string : KeyBuffer.empty.src_string = [] := rfl

@[simp] theorem empty_src_str_empty_size : KeyBuffer.empty.src_str_empty_size = 1023 := rfl

@[simp] theorem delim_src_string : buffer.delim.src_string = buffer.src_string ++ ['/'] := rfl

@[simp] theorem delim_src_str_empty_size :
    buffer.delim.src_str_empty_size = buffer.src_str_empty_size := rfl

end Buffer

def BidEntry.namesBuffer (entry : BidEntry) : KeyBuffer :=
  ((KeyBuffer.empty.field entry.realm_name.toList).delim.field entry.counter_name.toList).delim

theorem namesBuffer_text (hentry : entry.WellFormed) :
    entry.namesBuffer.src_string =
      entry.realm_name.toList ++ '/' :: (entry.counter_name.toList ++ ['/']) ∧
    800 ≤ entry.namesBuffer.src_str_empty_size := by
  have hrealm := hentry.realm_length
  have hcounter := hentry.counter_length
  have hfits : entry.realm_name.toList.length ≤ KeyBuffer.empty.src_str_empty_size := by
    rw [empty_src_str_empty_size]
    omega
  have hfirst := field_src_string hfits
  have hroom := field_src_str_empty_size hfits
  rw [empty_src_string, List.nil_append] at hfirst
  rw [empty_src_string, empty_src_str_empty_size, List.length_nil] at hroom
  have hfits' : entry.counter_name.toList.length ≤
      (KeyBuffer.empty.field entry.realm_name.toList).delim.src_str_empty_size := by
    rw [delim_src_str_empty_size, hroom]
    omega
  constructor
  · rw [BidEntry.namesBuffer, delim_src_string, field_src_string hfits', delim_src_string, hfirst]
    simp
  · rw [BidEntry.namesBuffer, delim_src_str_empty_size, field_src_str_empty_size hfits',
      delim_src_str_empty_size, hroom, delim_src_string, hfirst, List.length_append,
      List.length_singleton]
    omega

-- Two fields with a delimiter between them.
theorem fields_src_string {buffer : KeyBuffer} {first second : List Char}
    (hroom : 100 + buffer.src_string.length ≤ buffer.src_str_empty_size)
    (hfirst : first.length ≤ 11) (hsecond : second.length ≤ 11) :
    ((buffer.field first).delim.field second).src_string =
      buffer.src_string ++ (first ++ '/' :: second) := by
  have hfits : first.length ≤ buffer.src_str_empty_size := by omega
  have hfits' : second.length ≤ (buffer.field first).delim.src_str_empty_size := by
    rw [delim_src_str_empty_size, field_src_str_empty_size hfits]
    omega
  rw [field_src_string hfits', delim_src_string, field_src_string hfits]
  simp

-- The buffer is large enough for every field, so no strncat cuts anything off.
theorem bst_bid_port_index_to_ovsdb_key_eq {bid length_of_key : Nat}
    (hbid : bid_tab[bid]? = some entry)
    (hlength : (entry.keyText port index).length < length_of_key) :
    bst_bid_port_index_to_ovsdb_key bid port index length_of_key =
      some (entry.keyText port index) := by
  have hentry := bid_tab_wellFormed hbid
  obtain ⟨hnames, hroom⟩ := namesBuffer_text hentry
  have hspace : 100 + entry.namesBuffer.src_string.length ≤
      entry.namesBuffer.src_str_empty_size := by
    have hrealm := hentry.realm_length
    have hcounter := hentry.counter_length
    simp only [hnames, List.length_append, List.length_cons, List.length_nil]
    omega
  have hport := int32_length_le port
  have hindex := int32_length_le index
  have hnones : "NONE/NONE".toList.length ≤ entry.namesBuffer.src_str_empty_size :=
    Nat.le_trans (by decide : _ ≤ 800) hroom
  have htext : ∀ key : KeyBuffer, key.src_string = entry.keyText port index →
      (if length_of_key ≤ key.src_string.length then none else some key.src_string) =
        some (entry.keyText port index) := by
    intro key hkey
    rw [hkey, if_neg (by omega)]
  simp only [bst_bid_port_index_to_ovsdb_key, hbid]
  apply htext
  change (if entry.is_indexed = true then if entry.is_double_indexed = true
    then (entry.namesBuffer.field (showInt port.toInt)).delim.field (showInt index.toInt)
    else (entry.namesBuffer.field (showInt index.toInt)).delim.field "NONE".toList
    else entry.namesBuffer.field "NONE/NONE".toList).src_string = _
  unfold BidEntry.keyText BidEntry.indexTokens
  by_cases hindexed : entry.is_indexed = true
  · rw [if_pos hindexed, if_pos hindexed]
    by_cases hdouble : entry.is_double_indexed = true
    · rw [if_pos hdouble, if_pos hdouble, fields_src_string hspace hport hindex, hnames]
      simp
    · rw [if_neg hdouble, if_neg hdouble, fields_src_string hspace hindex (by decide), hnames]
      simp
  · rw [if_neg hindexed, if_neg hindexed,
      field_src_string hnones, hnames]
    simp

end Encode

section Decode

variable {entry : BidEntry} {bid : Nat}

theorem strtok_keyText (hentry : entry.WellFormed) (port index : Int32) :
    strtok '/' (entry.keyText port index) =
      [entry.realm_name.toList, entry.counter_name.toList, (entry.indexTokens port index).1,
        (entry.indexTokens port index).2] := by
  obtain ⟨hfirst, hsecond⟩ := @indexTokens_ne entry port index
  obtain ⟨hfirst', hsecond'⟩ := @indexTokens_delim entry port index
  rw [BidEntry.keyText, strtok_cons _ hentry.realm_ne hentry.realm_delim,
    strtok_cons _ hentry.counter_ne hentry.counter_delim, strtok_cons _ hfirst hfirst',
    strtok_token hsecond hsecond']

-- What the decoder reads in the third and fourth field of a key, and what it
-- then reports.
def BidEntry.decoded (entry : BidEntry) (bid : Nat) (port first second : Int32) : RowInfo :=
  let index := if entry.is_double_indexed then entry.position first (second - 1)
    else entry.position port (first - 1)
  if entry.Accepts index then
    if entry.is_double_indexed then .row bid first second else .row bid port first
  else .FAILURE

theorem bst_ovsdb_row_info_get_eq (hbid : bid_tab[bid]? = some entry) {ovsdb_key : List Char}
    (hlength : ovsdb_key.length < 1024) {first second : List Char}
    (htokens : strtok '/' ovsdb_key =
      [entry.realm_name.toList, entry.counter_name.toList, first, second]) (port : Int32) :
    bst_ovsdb_row_info_get ovsdb_key port = entry.decoded bid port (atoi first) (atoi second) := by
  rw [bst_ovsdb_row_info_get, if_neg (by omega), htokens]
  simp only [bid_find_entry hbid, hbid]
  rfl

-- Where an accepted pair of numbers leads, the reader of the cache goes too.
theorem decoded_cell (hbid : bid_tab[bid]? = some entry) {port first second port' queue : Int32}
    {bid' : Nat} (h : entry.decoded bid port first second = .row bid' port' queue) (asic : Int32) :
    bid' = bid ∧
    port' = (if entry.is_double_indexed then first else port) ∧
    queue = (if entry.is_double_indexed then second else first) ∧
    entry.Accepts (entry.position port' (queue - 1)) ∧
    bst_ovsdb_cache_row_get asic bid' port' queue =
      some (cellAddress asic entry (entry.position port' (queue - 1))) := by
  have hrow : ∀ p q : Int32, entry.Accepts (entry.position p (q - 1)) →
      bst_ovsdb_cache_row_get asic bid p q =
        some (cellAddress asic entry (entry.position p (q - 1))) := by
    intro p q haccepts
    simp [bst_ovsdb_cache_row_get, hbid, haccepts]
  by_cases hdouble : entry.is_double_indexed = true
  · simp only [BidEntry.decoded, hdouble, if_true] at h ⊢
    by_cases haccepts : entry.Accepts (entry.position first (second - 1))
    · rw [if_pos haccepts] at h
      obtain ⟨rfl, rfl, rfl⟩ := RowInfo.row.inj h
      exact ⟨rfl, rfl, rfl, haccepts, hrow _ _ haccepts⟩
    · rw [if_neg haccepts] at h
      cases h
  · simp only [BidEntry.decoded, hdouble] at h ⊢
    by_cases haccepts : entry.Accepts (entry.position port (first - 1))
    · simp only [Bool.false_eq_true, if_false] at h ⊢
      rw [if_pos haccepts] at h
      obtain ⟨rfl, rfl, rfl⟩ := RowInfo.row.inj h
      exact ⟨rfl, rfl, rfl, haccepts, hrow _ _ haccepts⟩
    · simp only [Bool.false_eq_true, if_false] at h
      rw [if_neg haccepts] at h
      cases h

end Decode

section RoundTrip

variable {entry : BidEntry} {bid : Nat} {port index db_index : Int32}

theorem resolve_index_some (h : bst_ovsdb_resolve_index bid port index = some db_index) :
    ∃ entry, bid_tab[bid]? = some entry ∧ db_index = entry.position port index ∧
      entry.Accepts db_index := by
  unfold bst_ovsdb_resolve_index at h
  cases hbid : bid_tab[bid]? with
  | none => simp [hbid] at h
  | some entry =>
      simp only [hbid] at h
      by_cases haccepts : entry.Accepts (entry.position port index)
      · rw [if_pos haccepts] at h
        obtain rfl := Option.some.inj h
        exact ⟨entry, rfl, rfl, haccepts⟩
      · rw [if_neg haccepts] at h
        cases h

-- A position depends on the port of a port-indexed counter only, and on the
-- index of an indexed one only.
theorem position_congr {port' index' : Int32}
    (hport : entry.is_double_indexed = true → port' = port)
    (hindex : entry.is_indexed = true → index' = index)
    (hdouble : entry.is_double_indexed = true → entry.is_indexed = true) :
    entry.position port' index' = entry.position port index := by
  by_cases hd : entry.is_double_indexed = true
  · rw [hport hd, hindex (hdouble hd)]
  · by_cases hi : entry.is_indexed = true
    · simp [BidEntry.position, hd, hi, hindex hi]
    · simp [BidEntry.position, hd, hi]

-- The numbers of a key come back as they went in, wherever the key has them.
theorem decoded_indexTokens (hentry : entry.WellFormed) (bid : Nat) (port index port₀ : Int32) :
    entry.decoded bid port₀ (atoi (entry.indexTokens port index).1)
        (atoi (entry.indexTokens port index).2) =
      if entry.Accepts (entry.position port (index - 1)) then
        .row bid (if entry.is_double_indexed then port else port₀)
          (if entry.is_indexed then index else 0)
      else .FAILURE := by
  by_cases hd : entry.is_double_indexed = true
  · have hi := hentry.double_indexed hd
    simp [BidEntry.decoded, BidEntry.indexTokens, hd, hi, atoi_showInt]
  · by_cases hi : entry.is_indexed = true
    · simp [BidEntry.decoded, BidEntry.indexTokens, BidEntry.position, hd, hi, atoi_showInt]
    · have hnone : atoi ['N', 'O', 'N', 'E'] = 0 := by decide
      simp [BidEntry.decoded, BidEntry.indexTokens, BidEntry.position, hd, hi, hnone]

-- The key of an accepted position is decoded to the cell of the position.
theorem keyText_decoded (hbid : bid_tab[bid]? = some entry)
    (haccepts : entry.Accepts (entry.position port index)) (asic : Int32) :
    ∃ port' queue, bst_ovsdb_row_info_get (entry.keyText port (index + 1)) 0 =
        .row bid port' queue ∧
      (entry.is_double_indexed = true → port' = port) ∧
      (entry.is_indexed = true → queue = index + 1) ∧
      bst_ovsdb_cache_row_get asic bid port' queue =
        some (cellAddress asic entry (entry.position port index)) := by
  have hentry := bid_tab_wellFormed hbid
  have hlength := keyText_length port (index + 1) hentry
  have hindex : index + 1 - 1 = index := Int32.add_sub_cancel index 1
  have hdecoded := decoded_indexTokens hentry bid port (index + 1) 0
  rw [hindex, if_pos haccepts] at hdecoded
  have hrow := bst_ovsdb_row_info_get_eq hbid (by omega) (strtok_keyText hentry port (index + 1)) 0
  obtain ⟨-, -, -, -, hcell⟩ := decoded_cell hbid hdecoded asic
  refine ⟨_, _, hrow.trans hdecoded, ?_, ?_, ?_⟩
  · intro hd
    rw [if_pos hd]
  · intro hi
    rw [if_pos hi]
  · rw [hcell]
    refine congrArg (fun position => some (cellAddress asic entry position)) ?_
    exact position_congr (fun hd => if_pos hd) (fun hi => by rw [if_pos hi, hindex])
      hentry.double_indexed

-- Encoding a counter id, a port and a one-based index and decoding the key gives
-- them back, and the decoded row is the cell that the readers resolve.
theorem ovsdb_key_round_trip (asic : Int32) (bid : Nat) (port index db_index : Int32)
    (hresolve : bst_ovsdb_resolve_index bid port index = some db_index) :
    ∃ entry ovsdb_key port' queue,
      bid_tab[bid]? = some entry ∧
      ovsdb_key.length < 1024 ∧
      (∀ length_of_key, ovsdb_key.length < length_of_key →
        bst_bid_port_index_to_ovsdb_key bid port (index + 1) length_of_key = some ovsdb_key) ∧
      bst_ovsdb_row_info_get ovsdb_key 0 = .row bid port' queue ∧
      (entry.is_double_indexed = true → port' = port) ∧
      (entry.is_indexed = true → queue = index + 1) ∧
      bst_ovsdb_cache_row_get asic bid port' queue = some (cellAddress asic entry db_index) := by
  obtain ⟨entry, hbid, rfl, haccepts⟩ := resolve_index_some hresolve
  have hlength := keyText_length port (index + 1) (bid_tab_wellFormed hbid)
  obtain ⟨port', queue, hrow, hport, hqueue, hcell⟩ := keyText_decoded hbid haccepts asic
  refine ⟨entry, entry.keyText port (index + 1), port', queue, hbid, by omega, ?_, hrow, hport,
    hqueue, hcell⟩
  intro length_of_key hfits
  exact bst_bid_port_index_to_ovsdb_key_eq port (index + 1) hbid hfits

theorem ovsdb_key_round_trip_headroom :
    ∃ entry ovsdb_key port' queue,
      bid_tab[6]? = some entry ∧
      ovsdb_key.length < 1024 ∧
      (∀ length_of_key, ovsdb_key.length < length_of_key →
        bst_bid_port_index_to_ovsdb_key 6 130 (7 + 1) length_of_key = some ovsdb_key) ∧
      bst_ovsdb_row_info_get ovsdb_key 0 = .row 6 port' queue ∧
      (entry.is_double_indexed = true → port' = 130) ∧
      (entry.is_indexed = true → queue = 7 + 1) ∧
      bst_ovsdb_cache_row_get 0 6 port' queue = some (cellAddress 0 entry 1039) :=
  ovsdb_key_round_trip 0 6 130 7 1039 (by decide)

end RoundTrip

end BroadView.Ovsdb
