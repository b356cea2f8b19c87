import BroadView.CString
import Mathlib.Data.List.Infix

-- Scanning a character array: the string at a place of it, strstr, and one call
-- of strtok with a pointer.
namespace BroadView.CString

section Strstr

-- Where the first occurrence starts.
def strstr : List Char → List Char → Option Nat
  | [], t => if t = [] then some 0 else none
  | c :: s, t => if t <+: c :: s then some 0 else (strstr s t).map (· + 1)

-- The pattern starts at the offset and nowhere before it.
structure FirstAt {α : Type} (pattern s : List α) (offset : Nat) : Prop where
  starts : pattern <+: s.drop offset
  first : ∀ earlier < offset, ¬pattern <+: s.drop earlier

variable {s t : List Char} {offset : Nat}

theorem strstr_eq_some (h : strstr s t = some offset) :
    FirstAt t s offset ∧ offset + t.length ≤ s.length := by
  induction s generalizing offset with
  | nil =>
      rw [strstr] at h
      split_ifs at h with ht
      obtain rfl := Option.some.inj h
      subst ht
      exact ⟨⟨List.prefix_rfl, fun earlier hlt => absurd hlt (Nat.not_lt_zero _)⟩, Nat.le_refl _⟩
  | cons c s ih =>
      rw [strstr] at h
      split_ifs at h with hhere
      · obtain rfl := Option.some.inj h
        refine ⟨⟨hhere, fun earlier hlt => absurd hlt (Nat.not_lt_zero _)⟩, ?_⟩
        simpa using hhere.length_le
      · obtain ⟨inner, hinner, rfl⟩ := Option.map_eq_some_iff.mp h
        obtain ⟨⟨hstarts, hfirst⟩, hlength⟩ := ih hinner
        refine ⟨⟨hstarts, ?_⟩, by simp only [List.length_cons]; omega⟩
        intro earlier hlt
        cases earlier with
        | zero => exact hhere
        | succ earlier => exact hfirst earlier (by omega)

theorem strstr_isSome_iff : (strstr s t).isSome = true ↔ t <:+: s := by
  induction s with
  | nil =>
      rw [strstr, List.infix_nil]
      split_ifs with ht <;> simp [ht]
  | cons c s ih =>
      rw [strstr, List.infix_cons_iff]
      split_ifs with hhere
      · simp [hhere]
      · simp [hhere, ih]

end Strstr

section StringAt

variable {s : List Char} {bytes rest : List (Option Char)}

theorem string_append_none (s : List Char) (rest : List (Option Char)) :
    string (s.map some ++ none :: rest) = some s := by
  rw [string_map_append, string, Option.map_some, List.append_nil]

theorem string_eq_some (h : string bytes = some s) :
    ∃ rest, bytes = s.map some ++ none :: rest := by
  induction bytes generalizing s with
  | nil => cases h
  | cons byte bytes ih =>
      cases byte with
      | none =>
          obtain rfl := Option.some.inj h
          exact ⟨bytes, rfl⟩
      | some c =>
          obtain ⟨tail, htail, rfl⟩ := Option.map_eq_some_iff.mp h
          obtain ⟨rest, rfl⟩ := ih htail
          exact ⟨rest, rfl⟩

theorem string_of_mem (h : none ∈ bytes) : ∃ s, string bytes = some s := by
  induction bytes with
  | nil => cases h
  | cons byte bytes ih =>
      cases byte with
      | none => exact ⟨[], rfl⟩
      | some c =>
          have hrest : none ∈ bytes := by simpa using h
          obtain ⟨s, hs⟩ := ih hrest
          exact ⟨c :: s, by rw [string, hs, Option.map_some]⟩

-- A pattern without a terminator starts where it does in the string.
theorem map_some_prefix_iff {t : List Char} :
    t.map some <+: s.map some ++ none :: rest ↔ t <+: s := by
  induction t generalizing s with
  | nil => simp
  | cons c t ih =>
      cases s with
      | nil => simp
      | cons d s => simp [List.cons_prefix_cons, ih]

theorem firstAt_bytes {t : List Char} {offset : Nat} (h : FirstAt t s offset)
    (hoffset : offset ≤ s.length) : FirstAt (t.map some) (s.map some ++ none :: rest) offset := by
  have hdrop : ∀ place ≤ s.length,
      (s.map some ++ none :: rest).drop place = (s.drop place).map some ++ none :: rest := by
    intro place hplace
    rw [List.drop_append_of_le_length (by simpa using hplace), List.map_drop]
  constructor
  · rw [hdrop offset hoffset]
    exact map_some_prefix_iff.mpr h.starts
  · intro earlier hlt hhere
    rw [hdrop earlier (by omega)] at hhere
    exact h.first earlier hlt (map_some_prefix_iff.mp hhere)

end StringAt

section Strtok

-- A token by the place of its first character.
structure Token where
  place : Nat
  text : List Char
  deriving DecidableEq, Repr

variable {size : Nat}

-- None when the string runs past the end of the array.
def Buffer.stringAt (buffer : Buffer size) (place : Nat) : Option (List Char) :=
  CString.string (buffer.bytes.drop place)

def Buffer.terminate (buffer : Buffer size) (place : Nat) : Buffer size :=
  { bytes := buffer.bytes.set place none
    length_eq := by rw [List.length_set, buffer.length_eq] }

@[simp] theorem Buffer.terminate_bytes (buffer : Buffer size) (place : Nat) :
    (buffer.terminate place).bytes = buffer.bytes.set place none := rfl

-- The delimiters before the token are skipped, and the byte after it becomes a
-- terminator, if it is not one.
def Buffer.strtok (delim : Char) (buffer : Buffer size) (place : Nat) :
    Option (Option Token × Buffer size) :=
  (buffer.stringAt place).map fun s =>
    let delims := s.takeWhile (· = delim)
    let text := (s.drop delims.length).takeWhile (· ≠ delim)
    if text = [] then (none, buffer)
    else
      (some { place := place + delims.length, text },
        buffer.terminate (place + delims.length + text.length))

-- None when the copy reads past the end of the array.
def Buffer.memcpy (buffer : Buffer size) (place count : Nat) : Option (Buffer count) :=
  if h : place + count ≤ size then
    some
      { bytes := (buffer.bytes.drop place).take count
        length_eq := by
          rw [List.length_take, List.length_drop, buffer.length_eq]
          omega }
  else none

structure Word (delim : Char) (text : List Char) : Prop where
  ne_nil : text ≠ []
  free : delim ∉ text

def EndsWord (delim : Char) (byte : Option Char) : Prop := byte = none ∨ byte = some delim

variable {delim : Char} {buffer : Buffer size} {before rest : List (Option Char)} {count : Nat}
  {token : List Char} {sep : Option Char}

theorem skip_delims (hword : Word delim token) (more : List Char) :
    (List.replicate count delim ++ (token ++ more)).takeWhile (· = delim) =
      List.replicate count delim := by
  obtain ⟨c, text, rfl⟩ := List.exists_cons_of_ne_nil hword.ne_nil
  have hne : c ≠ delim := fun heq => hword.free (heq ▸ List.mem_cons_self)
  induction count with
  | zero => simp [hne]
  | succ count ih => simpa [List.replicate_succ] using ih

theorem take_word (hword : Word delim token) {more : List Char}
    (hmore : more = [] ∨ ∃ others, more = delim :: others) :
    (token ++ more).takeWhile (· ≠ delim) = token := by
  have hfree : ∀ c ∈ token, decide (c ≠ delim) = true :=
    fun c hc => decide_eq_true fun heq => hword.free (heq ▸ hc)
  rw [List.takeWhile_append_of_pos hfree]
  rcases hmore with rfl | ⟨others, rfl⟩ <;> simp

theorem set_append_cons {α : Type} (before : List α) (old new : α) (rest : List α) :
    (before ++ old :: rest).set before.length new = before ++ new :: rest := by
  simp

-- The string from a word on goes on behind it only after a delimiter.
theorem string_word (skipped token : List Char) (hsep : EndsWord delim sep)
    (hend : none ∈ sep :: rest) :
    ∃ more, (more = [] ∨ ∃ others, more = delim :: others) ∧
      string (skipped.map some ++ (token.map some ++ sep :: rest)) =
        some (skipped ++ (token ++ more)) := by
  rcases hsep with rfl | rfl
  · refine ⟨[], Or.inl rfl, ?_⟩
    rw [string_map_append, string_append_none]
    simp
  · have hrest : none ∈ rest := by simpa using hend
    obtain ⟨others, hothers⟩ := string_of_mem hrest
    refine ⟨delim :: others, Or.inr ⟨others, rfl⟩, ?_⟩
    rw [string_map_append, string_map_append, string, hothers]
    simp

theorem strtok_word {place : Nat} (hplace : before.length = place) (hword : Word delim token)
    (hsep : EndsWord delim sep) (hend : none ∈ sep :: rest)
    (hbytes : buffer.bytes =
      before ++ (List.replicate count (some delim) ++ (token.map some ++ sep :: rest))) :
    ∃ after : Buffer size, after.bytes =
        before ++ (List.replicate count (some delim) ++ (token.map some ++ none :: rest)) ∧
      buffer.strtok delim place = some (some { place := place + count, text := token }, after) := by
  subst hplace
  obtain ⟨more, hmore, hstring⟩ := string_word (List.replicate count delim) token hsep hend
  rw [List.map_replicate] at hstring
  refine ⟨buffer.terminate (before.length + count + token.length), ?_, ?_⟩
  · have hplace : before.length + count + token.length =
        (before ++ (List.replicate count (some delim) ++ token.map some)).length := by
      simp [Nat.add_assoc]
    have hassoc : ∀ byte : Option Char,
        before ++ (List.replicate count (some delim) ++ (token.map some ++ byte :: rest)) =
          (before ++ (List.replicate count (some delim) ++ token.map some)) ++ byte :: rest := by
      intro byte
      simp
    rw [Buffer.terminate_bytes, hplace, hbytes, hassoc, hassoc]
    exact set_append_cons _ sep none rest
  · have hat : buffer.stringAt before.length =
        some (List.replicate count delim ++ (token ++ more)) := by
      rw [Buffer.stringAt, hbytes, List.drop_left, hstring]
    rw [Buffer.strtok, hat, Option.map_some]
    simp only [skip_delims hword more, List.length_replicate, take_word hword hmore,
      List.drop_left' List.length_replicate]
    rw [if_neg hword.ne_nil]

theorem strtok_blank {place : Nat} (hplace : before.length = place)
    (hbytes : buffer.bytes = before ++ (List.replicate count (some delim) ++ none :: rest)) :
    buffer.strtok delim place = some (none, buffer) := by
  subst hplace
  have hat : buffer.stringAt before.length = some (List.replicate count delim) := by
    rw [Buffer.stringAt, hbytes, List.drop_left, ← List.map_replicate, string_append_none]
  have hall : (List.replicate count delim).takeWhile (· = delim) = List.replicate count delim := by
    simp
  rw [Buffer.strtok, hat, Option.map_some, hall]
  simp

-- A token is taken from the string it is looked for in.
theorem strtok_of_string {place : Nat} {s : List Char} (hstring : buffer.stringAt place = some s) :
    ∃ found after, buffer.strtok delim place = some (found, after) ∧
      ∀ token, found = some token → Word delim token.text ∧ token.text.Sublist s := by
  rw [Buffer.strtok, hstring, Option.map_some]
  dsimp only
  split_ifs with hnil
  · exact ⟨none, buffer, rfl, fun token heq => by cases heq⟩
  · refine ⟨_, _, rfl, fun token heq => ?_⟩
    obtain rfl := Option.some.inj heq
    refine ⟨⟨hnil, fun hmem => ?_⟩, (List.takeWhile_sublist _).trans (List.drop_sublist _ _)⟩
    have hother := List.mem_takeWhile_imp hmem
    simp at hother

-- What a scan of terminated bytes finds: nothing but delimiters, or a word.
theorem word_cases (delim : Char) {tail : List (Option Char)} (hend : none ∈ tail) :
    ∃ (text : List Char) (sep : Option Char) (rest : List (Option Char)), delim ∉ text ∧
      EndsWord delim sep ∧ none ∈ sep :: rest ∧ tail = text.map some ++ sep :: rest := by
  induction tail with
  | nil => cases hend
  | cons byte tail ih =>
      by_cases hbyte : EndsWord delim byte
      · exact ⟨[], byte, tail, List.not_mem_nil, hbyte, hend, rfl⟩
      · cases byte with
        | none => exact absurd (Or.inl rfl) hbyte
        | some c =>
            have hc : c ≠ delim := fun heq => hbyte (Or.inr (by rw [heq]))
            have htail : none ∈ tail := by simpa using hend
            obtain ⟨text, sep, rest, hfree, hsep, hmem, rfl⟩ := ih htail
            refine ⟨c :: text, sep, rest, ?_, hsep, hmem, rfl⟩
            simpa [Ne.symm hc] using hfree

theorem scan_cases (delim : Char) {tail : List (Option Char)} (hend : none ∈ tail) :
    (∃ count rest, tail = List.replicate count (some delim) ++ none :: rest) ∨
      ∃ count token sep rest, Word delim token ∧ EndsWord delim sep ∧ none ∈ sep :: rest ∧
        tail = List.replicate count (some delim) ++ (token.map some ++ sep :: rest) := by
  induction tail with
  | nil => cases hend
  | cons byte tail ih =>
      by_cases hdelim : byte = some delim
      · subst hdelim
        have htail : none ∈ tail := by simpa using hend
        rcases ih htail with ⟨count, rest, rfl⟩ | ⟨count, token, sep, rest, hword, hsep, hmem, rfl⟩
        · exact Or.inl ⟨count + 1, rest, by simp [List.replicate_succ]⟩
        · exact Or.inr ⟨count + 1, token, sep, rest, hword, hsep, hmem, by
            simp [List.replicate_succ]⟩
      · obtain ⟨text, sep, rest, hfree, hsep, hmem, htail⟩ := word_cases delim hend
        cases text with
        | nil =>
            rcases hsep with rfl | rfl
            · exact Or.inl ⟨0, rest, htail⟩
            · exact absurd (List.cons.inj htail).1 hdelim
        | cons c text =>
            exact Or.inr ⟨0, c :: text, sep, rest, ⟨List.cons_ne_nil _ _, hfree⟩, hsep, hmem, htail⟩

end Strtok

end BroadView.CString
